/-
No wake-up is lost.

A task that waits for something to do looks at the queue only when it reads a command, and while it
is busy it reads commands and ignores them.  Submitters queue first and wake afterwards.  That is
enough: whenever the task waits for something to do, there are at least as many wake-ups still to
come as writes that wait, and whenever it begins to wait again, it looks at the queue first.

* `Uplink.Connection.Listening` — the task waits for something to do;
* `Uplink.Scene.Announced` — every write that waits is announced, or about to be;
* `Uplink.Scene.Reachable.announced` — **so it is in every scene**;
* `Uplink.Scene.wakes_up` — **no write is left behind**.
-/

import Uplink.Proofs.Scene

set_option relaxedAutoImplicit false
set_option autoImplicit false

namespace Uplink

namespace Connection

variable {c : Connection} {now : Instant} {stimulus : Stimulus}

/-- The task waits for something to do, and no probe is outstanding. -/
def Listening (c : Connection) : Prop :=
  c.position = .parked .free ∧ c.keepAlive.isProbing = false

/-- A turn that ends with the task waiting for something to do either began so, and read no command
that it should have obeyed, or found the queue empty. -/
theorem Passing.listening {p : Progress} (hp : c.Passing now stimulus p) (h : p.next.Listening) :
    p.next.queue = [] ∨
      c.Listening ∧ p.next.queue = c.queue ∧ p.next.inbox = c.inbox := by
  obtain ⟨hpos, hk⟩ := h
  cases hp with
  | rests => exact .inr ⟨⟨hpos, hk⟩, rfl, rfl⟩
  | settles hp hs hq =>
      obtain ⟨block, -, heq⟩ := c.parkFree_eq
      rw [heq] at hk ⊢
      exact .inl (hq hk)
  | swallows phase command hp hi hc hw =>
      have hphase : phase = .free := by
        rw [hp] at hpos
        cases hpos
        rfl
      exact .inl ((hw hphase).2 hk)
  | plans phase keepAlive hp hk' => exact .inr ⟨⟨hpos, hk'.symm.trans hk⟩, rfl, rfl⟩
  | probesLast probe unsent count tick =>
      obtain ⟨block, -, heq⟩ := c.completeProbe_eq probe tick
      rw [Progress.next_andThen, transmit, heq] at hk
      cases hk
  | probesAtOnce keepAlive tick =>
      obtain ⟨block, -, heq⟩ := { c with keepAlive }.completeProbe_eq [] tick
      rw [heq] at hk
      cases hk
  | answersPart bytes hst hp hs hk' hv =>
      obtain ⟨block, -, heq⟩ := (c.receive bytes).parkFree_eq
      rw [heq] at hk
      exact absurd (hk'.symm.trans hk) nofun
  | answersBeyond bytes _ _ _ _ hroom =>
      cases (position_endProbe_of_hasRoom (c := c.receive bytes) hroom).symm.trans hpos
  | readsBeyond bytes _ _ _ hroom =>
      cases (position_touch_of_hasRoom (c := c.receive bytes) hroom).symm.trans hpos
  | crashes keepAlive =>
      rw [next_crash] at hpos
      cases hpos
  | _ => cases hpos

theorem Listening.isGone_eq (h : c.Listening) : c.isGone = false := by
  simp [isGone, h.1]

/-- Giving a command to a task that listens puts it into the inbox. -/
theorem Listening.of_post {command : Command} (h : (c.post command).next.Listening) :
    c.Listening := by
  unfold post at h
  split at h <;> exact h

theorem Listening.of_close {waiter : Waiter} (h : (c.close waiter).next.Listening) :
    c.Listening := by
  unfold close at h
  split at h <;> exact h

theorem Listening.of_letGo (h : c.letGo.next.Listening) : c.Listening := by
  obtain ⟨-, heq⟩ | ⟨-, asked, -, heq⟩ := c.letGo_cases <;> rw [heq] at h <;> exact h

/-! ### What is made of a wake-up -/

/-- The first write that waits is in flight now. -/
def Begins (c next : Connection) (now : Instant) : Prop :=
  next.status = .writing ∧ next.inFlight = c.queue.head?.map (·.dispatch now) ∧
    next.queue = c.queue.tail

/-- A task that listens obeys the next command, if anything waits. -/
theorem Listening.obeys (h : c.Listening) (hq : c.queue ≠ []) (hi : c.inbox ≠ []) (now : Instant) :
    ∃ signal, (c.turn now .command).next.position = .signalled signal ∧
      (signal = .dispatch ∨ signal = .connect ∨ ∃ waiter, signal = .close waiter) := by
  obtain ⟨command, rest, hi⟩ := List.exists_cons_of_ne_nil hi
  obtain ⟨hpos, hk⟩ := h
  refine ⟨command.signal, ?_, ?_⟩
  · cases command <;>
      simp [turn, hpos, observe, observeFree, observeFreeCommand, readCommand, hi, hk, hq, signal,
        Command.signal]
  · cases command with
    | connect => exact .inr (.inl rfl)
    | wake => exact .inl rfl
    | close waiter => exact .inr (.inr ⟨waiter, rfl⟩)

/-- A task that enters the phase of a free connection looks at the queue first. -/
theorem Sound.dispatches (h : c.Sound) (hp : c.position = .entering) (hs : c.status = .free)
    (hk : c.keepAlive.isProbing = false) (hq : c.queue ≠ []) (now : Instant)
    (stimulus : Stimulus) : (c.turn now stimulus).next.position = .signalled .dispatch := by
  have he := h.going (by rw [hs]; decide)
  simp [Connection.turn, hp, enter, he, hs, enterFree, hk, hq, signal]

theorem begins_beginWrite {d : Connection} (hq : c.queue ≠ []) (hd : d.queue = c.queue)
    (hs : d.status = .writing) (now : Instant) : c.Begins (d.beginWrite now) now := by
  obtain ⟨w, rest, hq⟩ := List.exists_cons_of_ne_nil hq
  simp [Begins, beginWrite, hd, hq, hs]

/-- A queued write that was seen is begun, unless it was taken back. -/
theorem Firing.begins_dispatch {p : Progress} (h : c.Firing now .dispatch p) (hq : c.queue ≠ []) :
    c.Begins p.next now := by
  cases h with
  | rests hr => exact absurd (hr.resolve_left nofun).2 hq
  | dispatches hs =>
      rw [Progress.next_andThen, next_moveTo]
      refine begins_beginWrite hq ?_ ?_ now <;> rfl
  | fails _ _ _ herror => cases herror

/-- A fresh socket is used at once, if anything waits. -/
theorem Firing.begins_connected {p : Progress} {link : Link} {took : Duration}
    (h : c.Firing now (.connected link took) p) (hq : c.queue ≠ []) : c.Begins p.next now := by
  cases h with
  | rests hr => exact absurd hr nofun
  | settles _ _ hs hnil => exact absurd hnil hq
  | settlesBusy =>
      rw [Progress.next_andThen, Progress.next_andThen, next_moveTo]
      refine begins_beginWrite hq ?_ ?_ now <;> rfl
  | fails _ _ _ herror => cases herror

/-- A reconnect leaves the queue to the connect. -/
theorem Firing.connecting {p : Progress} (h : c.Firing now .connect p) :
    p.next.status = .connecting ∧ p.next.queue = c.queue := by
  cases h with
  | rests hr => exact absurd hr nofun
  | connects =>
      rw [Progress.next_andThen, next_moveTo]
      exact ⟨rfl, rfl⟩
  | fails _ _ _ herror => cases herror

theorem Firing.stopped {p : Progress} {waiter : Option Waiter}
    (h : c.Firing now (.close waiter) p) : p.next.status = .stopped := by
  cases h with
  | rests hr => exact absurd hr nofun
  | closes =>
      rw [Progress.next_andThen, next_moveTo]
      rfl
  | fails _ _ _ herror => cases herror

end Connection

namespace Scene

variable {s : Scene}

/-! ### Wake-ups to come -/

/-- While the task waits for something to do, all writes that wait are announced, or about to be. -/
def Announced (s : Scene) : Prop :=
  s.connection.Listening →
    s.connection.queue.length ≤ s.connection.inbox.count .wake + s.pushing

theorem announced_turn (h : s.Announced) (hi : s.connection.Intact) (now : Instant)
    (stimulus : Stimulus) : (s.turn now stimulus).Announced := by
  intro hl
  change (s.connection.turn now stimulus).next.Listening at hl
  change (s.connection.turn now stimulus).next.queue.length ≤
    (s.connection.turn now stimulus).next.inbox.count .wake + s.pushing
  obtain ⟨-, hp⟩ | ⟨signal, -, -, hf⟩ := Connection.turn_cases now stimulus hi.fits
  · obtain hq | ⟨hl', hq, hinbox⟩ := hp.listening hl
    · rw [hq]
      exact Nat.zero_le _
    · rw [hq, hinbox]
      exact h hl'
  · -- A task that has fired a signal does not wait yet.
    rcases hf.position_cases with hpos | ⟨hpos, -⟩ <;> cases hpos.symm.trans hl.1

/-- Another command takes no wake-up away. -/
theorem announced_post (h : s.Announced) (command : Command) :
    (s.after (s.connection.post command)).Announced := by
  intro hl
  have hl' := Connection.Listening.of_post hl
  have hcount := h hl'
  simp only [after, Connection.post_of_not_isGone hl'.isGone_eq, List.count_append]
  omega

/-- Every move keeps the writes announced. -/
theorem Moved.announced {t : Scene} (hm : s.Moved t) (h : s.Announced)
    (hi : s.connection.Intact) : t.Announced := by
  cases hm with
  | stays | rejects | rejectsAgain | discards | recodes => exact h
  | turns now stimulus => exact announced_turn h hi now stimulus
  | pushes w connection hc | pushesAgain w expects connection hw hc =>
      have hd := Connection.eq_of_push? hc
      subst hd
      intro hl
      have hcount := h hl
      simp only [List.length_append, List.length_singleton]
      omega
  | wakes hpushing =>
      intro hl
      have hl' := Connection.Listening.of_post hl
      have hcount := h hl'
      simp only [after, Connection.post_of_not_isGone hl'.isGone_eq, List.count_append,
        List.count_singleton_self]
      omega
  | takes => exact fun _ => Nat.zero_le _
  | posts command => exact announced_post h command
  | closes waiter =>
      intro hl
      have hl' := Connection.Listening.of_close hl
      have hcount := h hl'
      simp only [after, Connection.close, hl'.isGone_eq]
      exact Nat.le_trans hcount (by simp)
  | letsGo =>
      intro hl
      have hl' := Connection.Listening.of_letGo hl
      have hcount := h hl'
      obtain ⟨hcrashed, -⟩ | ⟨-, asked, -, heq⟩ := s.connection.letGo_cases
      · rw [hl'.1] at hcrashed
        cases hcrashed
      · simp only [after, heq, List.count_append]
        omega

/-- **In every scene the writes are announced.** -/
theorem Reachable.announced (h : s.Reachable) : s.Announced := by
  induction h with
  | start => exact fun hl => nomatch hl.1
  | step hr move ih => exact (moved _ move).announced ih hr.intact

/-! ### No write is left behind -/

/-- **No write is left behind.**  While the task listens and a write waits, a command or a submitter
about to wake the task is still to come, and the next command leads to a dispatch, a reconnect or a
close.  A wake-up that was ignored is made up for when the task enters the phase of a free
connection, or when the connect succeeds. -/
theorem wakes_up (h : s.Reachable) (hq : s.connection.queue ≠ []) :
    (s.connection.Listening → s.connection.inbox ≠ [] ∨ 0 < s.pushing) ∧
    (s.connection.Listening → s.connection.inbox ≠ [] → ∀ now, ∃ signal,
      (s.connection.turn now .command).next.position = .signalled signal ∧
        (signal = .dispatch ∨ signal = .connect ∨ ∃ waiter, signal = .close waiter)) ∧
    (s.connection.position = .entering → s.connection.status = .free →
      s.connection.keepAlive.isProbing = false → ∀ now stimulus,
        (s.connection.turn now stimulus).next.position = .signalled .dispatch) ∧
    (∀ now stimulus, s.connection.position = .signalled .dispatch →
      s.connection.Begins (s.connection.turn now stimulus).next now) ∧
    (∀ link took now stimulus, s.connection.position = .signalled (.connected link took) →
      s.connection.Begins (s.connection.turn now stimulus).next now) ∧
    (∀ now stimulus, s.connection.position = .signalled .connect →
      (s.connection.turn now stimulus).next.status = .connecting ∧
        (s.connection.turn now stimulus).next.queue = s.connection.queue) ∧
    ∀ waiter now stimulus, s.connection.position = .signalled (.close waiter) →
      (s.connection.turn now stimulus).next.status = .stopped := by
  have hsound {position : Position} (hp : s.connection.position = position)
      (hc : position ≠ .crashed) : s.connection.Sound := h.intact.sound (by rwa [hp])
  have hfires {signal : Signal} (hp : s.connection.position = .signalled signal) (now : Instant)
      (stimulus : Stimulus) :
      s.connection.Firing now signal (s.connection.turn now stimulus) := by
    have hf := (hsound hp nofun).fits
    rw [hp] at hf
    unfold Connection.turn
    rw [hp]
    exact Connection.firing hf
  refine ⟨fun hl => ?_, fun hl hi now => hl.obeys hq hi now, fun hp hs hk now stimulus =>
    (hsound hp nofun).dispatches hp hs hk hq now stimulus, fun now stimulus hp =>
    (hfires hp now stimulus).begins_dispatch hq, fun link took now stimulus hp =>
    (hfires hp now stimulus).begins_connected hq, fun now stimulus hp =>
    (hfires hp now stimulus).connecting, fun waiter now stimulus hp =>
    (hfires hp now stimulus).stopped⟩
  -- A queue that is not empty has announced more than nothing.
  have hcount := h.announced hl
  have hlength := List.length_pos_iff.2 hq
  by_cases hi : s.connection.inbox = []
  · rw [hi, List.count_nil] at hcount
    exact .inr (by omega)
  · exact .inl hi

/-- A run in which a write is queued on a free connection, and the submitter has not woken the task
yet. -/
def pushRun : List Move :=
  [.turn ⟨0⟩ .tick, .turn ⟨0⟩ .tick, .connect, .turn ⟨1⟩ .command, .turn ⟨1⟩ .tick,
    .turn ⟨1⟩ .tick, .turn ⟨2⟩ (.dialled ⟨0, none, []⟩), .turn ⟨2⟩ .tick, .turn ⟨2⟩ .tick,
    .push sampleWrite]

theorem wakes_up_pushRun :
    let s := (start ⟨0⟩ ⟨"node", 9001⟩ {} .line none).run pushRun
    s.connection.Listening ∧ s.connection.inbox = [] ∧ 0 < s.pushing :=
  have hl : Connection.Listening
      ((start ⟨0⟩ ⟨"node", 9001⟩ {} .line none).run pushRun).connection := ⟨by decide, by decide⟩
  ⟨hl, by decide,
    ((wakes_up ((Reachable.start _ _ _ _ _).run pushRun) (by decide)).1 hl).resolve_left
      (by decide)⟩

end Scene

end Uplink
