/-
Deliveries that tell the truth.

A delivery is told of by one turn, which fires the signal of a written payload or of a complete
response.  What it tells is put together there from the write in flight, from the block and from the
clock.  That it is true is seen in the turns before: the write was begun by one of them, and its
course since then is known.

* `Uplink.Connection.Intact.delivery` — what a turn finds that tells of a delivery;
* `Uplink.Scene.Chronological` — time does not run backwards;
* `Uplink.Scene.exists_of_turns_eq` — a turn of a run is a move of it;
* `Uplink.Scene.exists_turn_of_delivered` — **a delivery is told of by a turn**;
* `Uplink.Scene.exists_submitted` — a write that a turn finds was submitted and created before.

Main result: `Uplink.Scene.deliveries_true`.
-/

import Uplink.Proofs.WriteProgress

set_option relaxedAutoImplicit false
set_option autoImplicit false

namespace Uplink

namespace Connection

variable {c : Connection} {now : Instant} {stimulus : Stimulus}

/-- **What a turn finds that tells of a delivery**: nothing of the payload is unsent, and a response
is told of exactly if one is expected; then it is what is held. -/
theorem Intact.delivery {ticket : Nat} {delivery : Delivery} (h : c.Intact)
    (hmem : (ticket, .delivered delivery) ∈ (c.turn now stimulus).outcomes) :
    ∃ w response socket, c.inFlight = some w ∧ w.ticket = ticket ∧
      w.delivered now response = .delivered delivery ∧
      c.line? = some ⟨socket, [], c.block.held, c.current⟩ ∧
      (c.expectsResponse = false ∧ response = none ∨
        c.status = .waiting ∧ ∃ length, c.position = .signalled (.frame length) ∧
          response = some (c.block.takeFrame length)) := by
  obtain ⟨-, hp⟩ | ⟨signal, hpos, -, hf⟩ := turn_cases now stimulus h.fits
  · obtain ⟨returned, hreturned⟩ := hp.undelivered _ hmem
    cases hreturned
  · have hs : c.Sound := h.sound (by rw [hpos]; nofun)
    obtain ⟨w, response, hw, hticket, hd, hcase⟩ := hf.delivery hmem
    obtain ⟨⟨bytes, rfl⟩, hstatus, he, hr⟩ | ⟨length, rfl, hstatus, hr⟩ := hcase
    · obtain ⟨socket, hsocket⟩ := hs.exists_socket (by rw [hstatus]; rfl)
      refine ⟨w, response, socket, hw, hticket, hd, ?_, .inl ⟨he, hr⟩⟩
      simp [line?, unsent, Signal.parts, hpos, hsocket]
    · obtain ⟨socket, hsocket⟩ := hs.exists_socket (by rw [hstatus]; rfl)
      refine ⟨w, response, socket, hw, hticket, hd, ?_, .inr ⟨hstatus, length, hpos, hr⟩⟩
      simp [line?, unsent, Signal.parts, hpos, hsocket]

end Connection

/-! ### The clock -/

/-- The instant of a turn, or the creation of a fresh write. -/
def Move.instant? : Move → Option Instant
  | turn now _ => some now
  | push w => some w.enqueuedAt
  | _ => none

/-- A turn does not come before what has happened. -/
def Move.Precedes (earlier : Move) : Move → Prop
  | turn now _ => ∀ instant ∈ earlier.instant?, instant ≤ now
  | _ => True

instance (earlier : Move) : DecidablePred earlier.Precedes
  | .turn now _ => inferInstanceAs (Decidable (∀ instant ∈ earlier.instant?, instant ≤ now))
  | .push _ | .pushAgain _ _ | .wake | .take | .discard _ | .connect | .shutdown | .close _
  | .letGo | .recode _ => inferInstanceAs (Decidable True)

/-- The times until something was begun and since then are the time that has passed. -/
theorem Instant.ns_add_since {created begun now : Instant} (h : created ≤ begun)
    (h' : begun ≤ now) :
    created.ns + ((begun.since created).ns + (now.since begun).ns) = now.ns := by
  rw [le_def] at h h'
  simp only [since]
  omega

namespace Scene

variable {s : Scene} {moves : List Move}

/-- Time does not run backwards: no turn comes before an earlier one, or before the creation of a
write that was submitted earlier. -/
def Chronological (moves : List Move) : Prop := moves.Pairwise Move.Precedes

instance (moves : List Move) : Decidable (Chronological moves) :=
  inferInstanceAs (Decidable (moves.Pairwise Move.Precedes))

theorem Chronological.le {before after : List Move} {move : Move} {now instant : Instant}
    {stimulus : Stimulus} (h : Chronological (before ++ .turn now stimulus :: after))
    (hmem : move ∈ before) (hinstant : move.instant? = some instant) : instant ≤ now :=
  (List.pairwise_append.1 h).2.2 move hmem _ List.mem_cons_self instant hinstant

/-! ### Turns and moves -/

/-- A turn of a run is a move of it, which finds what the moves before it have led to. -/
theorem exists_of_turns_eq {earlier later : List Turn} {t : Turn}
    (h : s.turns moves = earlier ++ t :: later) : ∃ before after,
      moves = before ++ .turn t.now t.stimulus :: after ∧
      (s.run before).connection = t.connection ∧ s.turns before = earlier := by
  -- A turn is recorded at the end, so that the last move is taken off.
  induction moves using List.reverseRecOn generalizing later with
  | nil =>
      have hlength := congrArg List.length h
      simp [turns, record] at hlength
  | append_singleton moves move ih =>
      have hold {rest : List Turn} (heq : s.turns moves = earlier ++ t :: rest) :
          ∃ before after, moves ++ [move] = before ++ .turn t.now t.stimulus :: after ∧
            (s.run before).connection = t.connection ∧ s.turns before = earlier := by
        obtain ⟨before, after, rfl, hc, hturns⟩ := ih heq
        exact ⟨before, after ++ [move], by simp, hc, hturns⟩
      rcases (s.run moves).turn_or_apart move with ⟨now, stimulus, rfl⟩ | ⟨hother, -⟩
      · by_cases ha : (s.run moves).Allows (.turn now stimulus)
        · rw [turns_concat_turn ha] at h
          rcases List.eq_nil_or_concat later with rfl | ⟨rest, last, rfl⟩
          · obtain ⟨hturns, hlast⟩ := List.append_inj' h rfl
            cases hlast
            exact ⟨moves, [], rfl, rfl, hturns⟩
          · rw [List.concat_eq_append, ← List.cons_append, ← List.append_assoc] at h
            exact hold (List.append_inj' h rfl).1
        · rw [turns_concat_of_not_allows ha] at h
          exact hold h
      · rw [turns_concat_of_ne hother] at h
        exact hold h

/-- Only a fresh write is submitted. -/
theorem submitted_step {move : Move} {w : PendingWrite} (hw : w ∈ (s.step move).submitted) :
    w ∈ s.submitted ∨ move = .push w := by
  rcases s.turn_or_apart move with ⟨now, stimulus, rfl⟩ | ⟨hother, -⟩
  · refine .inl ?_
    by_cases ha : s.Allows (.turn now stimulus)
    · rwa [step_turn ha] at hw
    · rwa [step_of_not_allows ha] at hw
  · cases move with
    | turn now stimulus => exact absurd rfl (hother now stimulus)
    | recode codec => exact .inl hw
    | push v =>
        rcases List.mem_append.1 ((s.beside_submit v).submitted w hw) with hw | hw
        · exact .inl hw
        · exact .inr (by rw [List.mem_singleton.1 hw])
    | _ => exact .inl (by simpa using (s.beside_step hother nofun nofun).submitted w hw)

/-- A write that is submitted was pushed. -/
theorem push_mem_of_submitted {w : PendingWrite} (hs : s.submitted = [])
    (hw : w ∈ (s.run moves).submitted) : .push w ∈ moves := by
  induction moves using List.reverseRecOn with
  | nil =>
      rw [show s.run [] = s from rfl, hs] at hw
      cases hw
  | append_singleton moves move ih =>
      rw [run_concat] at hw
      rcases submitted_step hw with hw | rfl
      · exact List.mem_append_left _ (ih hw)
      · exact List.mem_append_right _ List.mem_cons_self

theorem Moved.submitted_grows {t : Scene} (hm : s.Moved t) : s.submitted <+: t.submitted := by
  cases hm <;> first | exact List.prefix_refl _ | exact List.prefix_append _ _

/-- What is submitted stays so. -/
theorem submitted_run (s : Scene) (moves : List Move) :
    s.submitted <+: (s.run moves).submitted := by
  induction moves generalizing s with
  | nil => exact List.prefix_refl _
  | cons move moves ih => exact (s.moved move).submitted_grows.trans (ih (s.step move))

section

variable {now : Instant} {endpoint : Endpoint} {config : Config} {codec : FrameCodec}
  {name : Option String}

/-- **A delivery is told of by a turn.** -/
theorem exists_turn_of_delivered {ticket : Nat} {delivery : Delivery}
    (hmem : (ticket, .delivered delivery) ∈
      ((start now endpoint config codec name).run moves).outcomes) :
    ∃ earlier t later, (start now endpoint config codec name).turns moves = earlier ++ t :: later ∧
      (ticket, .delivered delivery) ∈ t.progress.outcomes := by
  have hr := Reachable.start now endpoint config codec name
  have hnone : (start now endpoint config codec name).outcomes = [] := rfl
  generalize start now endpoint config codec name = first at *
  revert hmem
  refine run_induction (P := fun moves s => (ticket, .delivered delivery) ∈ s.outcomes →
    ∃ earlier t later, first.turns moves = earlier ++ t :: later ∧
      (ticket, .delivered delivery) ∈ t.progress.outcomes) hr (fun hmem => ?_)
    (fun moves move ha ih hmem => ?_) (fun moves move _ ha ih hmem => ?_) moves
  · rw [hnone] at hmem
    cases hmem
  · obtain ⟨earlier, t, later, heq, ht⟩ := ih hmem
    refine ⟨earlier, t, later, ?_, ht⟩
    rw [turns_concat_of_not_allows ha]
    exact heq
  · rcases (first.run moves).turn_or_apart move with ⟨instant, stimulus, rfl⟩ | ⟨hother, hapart⟩
    · rw [step_turn ha] at hmem
      rw [turns_concat_turn ha]
      have houtcomes : ((first.run moves).turn instant stimulus).outcomes =
          (first.run moves).outcomes ++
            ((first.run moves).connection.turn instant stimulus).outcomes := outcomes_after _ _
      rw [houtcomes] at hmem
      rcases List.mem_append.1 hmem with hmem | hmem
      · obtain ⟨earlier, t, later, heq, ht⟩ := ih hmem
        exact ⟨earlier, t, later ++ [_], by rw [heq, List.append_assoc]; rfl, ht⟩
      · exact ⟨first.turns moves, ⟨(first.run moves).connection, instant, stimulus⟩, [], rfl, hmem⟩
    · obtain ⟨told, hold, hundelivered⟩ := hapart.outcomes_eq
      rw [turns_concat_of_ne hother]
      rw [hold] at hmem
      rcases List.mem_append.1 hmem with hmem | hmem
      · exact ih hmem
      · obtain ⟨returned, hreturned⟩ := hundelivered _ hmem
        cases hreturned

/-- What the turns before it tell holds of the connection that a turn finds. -/
theorem followed_of_turns_eq {earlier later : List Turn} {t : Turn}
    (heq : (start now endpoint config codec name).turns moves = earlier ++ t :: later) :
    t.connection.Intact ∧ t.connection.config = config ∧ Followed config earlier t.connection := by
  obtain ⟨before, after, -, hc, rfl⟩ := exists_of_turns_eq heq
  rw [← hc]
  exact ⟨((Reachable.start now endpoint config codec name).run before).intact,
    (idleHistory_run now endpoint config codec name before).watched.config_eq,
    followed_run now endpoint config codec name before⟩

/-- A write that a turn finds was submitted before; if time does not run backwards, it was also
created before. -/
theorem exists_submitted {earlier later : List Turn} {t : Turn} {w : PendingWrite}
    (heq : (start now endpoint config codec name).turns moves = earlier ++ t :: later)
    (hw : w ∈ t.connection.held) :
    ∃ v ∈ ((start now endpoint config codec name).run moves).submitted, v.ticket = w.ticket ∧
      v.payload = w.payload ∧ v.enqueuedAt = w.enqueuedAt ∧
      (Chronological moves → v.enqueuedAt ≤ t.now) := by
  obtain ⟨before, after, rfl, hc, -⟩ := exists_of_turns_eq heq
  have hr := (Reachable.start now endpoint config codec name).run before
  rw [← hc] at hw
  obtain ⟨v, hv, hticket, hpayload, htime⟩ := hr.accounted.source w (List.mem_append_left _ hw)
  refine ⟨v, ?_, hticket, hpayload, htime, fun hclock => ?_⟩
  · rw [run_append]
    exact (submitted_run _ _).subset hv
  · exact hclock.le (push_mem_of_submitted rfl hv) rfl

/-- If time does not run backwards, no turn comes before an earlier one. -/
theorem Chronological.now_le {earlier between later : List Turn} {cause t : Turn}
    (hclock : Chronological moves)
    (heq : s.turns moves = earlier ++ cause :: (between ++ t :: later)) : cause.now ≤ t.now := by
  rw [← List.cons_append, ← List.append_assoc] at heq
  obtain ⟨before, after, rfl, -, hturns⟩ := exists_of_turns_eq heq
  obtain ⟨first, second, rfl, -, -⟩ := exists_of_turns_eq hturns
  have hmem : .turn cause.now cause.stimulus ∈
      first ++ .turn cause.now cause.stimulus :: second :=
    List.mem_append_right _ List.mem_cons_self
  exact hclock.le hmem rfl

end

/-- **A delivery tells the truth**, in every run.  It is told of by a turn that finds the write in
flight.  The turns since that write was begun first send and then wait, all of them over the socket
that is still there.  What those that send hand to this socket is the whole payload that was
submitted, and the number of bytes sent is its length.  There is a response exactly if the write
expects one or, if it does not say, the connection does.  The response is what those that wait have
read, and nothing else, and the last of them found it to be one whole frame.  The times told are
those from the creation of the write until it was begun, and from then until now; if time does not
run backwards, together they are the time from its creation until now. -/
theorem deliveries_true (now : Instant) (endpoint : Endpoint) (config : Config)
    (codec : FrameCodec) (name : Option String) (moves : List Move) {ticket : Nat}
    {delivery : Delivery}
    (hmem : (ticket, .delivered delivery) ∈
      ((start now endpoint config codec name).run moves).outcomes) :
    let first := start now endpoint config codec name
    ∃ earlier t later w cause sending waiting socket,
      first.turns moves = earlier ++ t :: later ∧
      (ticket, .delivered delivery) ∈ t.progress.outcomes ∧
      t.connection.inFlight = some w ∧ w.ticket = ticket ∧ t.connection.socket = some socket ∧
      SinceBegun earlier w cause sending waiting ∧
      (∀ u ∈ sending ++ waiting, u.connection.socket = some socket) ∧
      (∃ v ∈ (first.run moves).submitted, v.ticket = ticket ∧
        sending.flatMap (·.progress.handed socket) = v.payload ∧
        delivery.bytesSent = v.payload.length ∧
        delivery.queuedFor = cause.now.since v.enqueuedAt ∧
        delivery.latency = t.now.since cause.now ∧
        (Chronological moves →
          v.enqueuedAt.ns + (delivery.queuedFor.ns + delivery.latency.ns) = t.now.ns)) ∧
      (delivery.response.isSome = true ↔ w.expects.getD config.expectResponse = true) ∧
      ∀ response, delivery.response = some response →
        response = waiting.flatMap Turn.read ∧ ∃ last, waiting.getLast? = some last ∧
          last.connection.codec.check response = .complete response.length := by
  intro first
  obtain ⟨earlier, t, later, heq, ht⟩ := exists_turn_of_delivered hmem
  obtain ⟨hi, hconfig, hfollowed⟩ := followed_of_turns_eq heq
  obtain ⟨w, response?, socket, hw, hticket, hd, hline, hcase⟩ := hi.delivery ht
  cases hd
  obtain ⟨cause, sending, waiting, hcourse, hmidway⟩ := hfollowed w hw
  obtain ⟨holds, hsent, hheard⟩ := hmidway.line _ hline
  obtain ⟨started, hearlier⟩ := hcourse.turns_eq
  obtain ⟨queued, rest, hqueue, rfl⟩ := hcourse.begins
  have hcause : first.turns moves = started ++ cause :: ((sending ++ waiting) ++ t :: later) := by
    rw [heq, hearlier]
    simp
  -- The write was submitted before the turn that began it.
  obtain ⟨v, hv, hvticket, hvpayload, hvtime, hcreated⟩ := exists_submitted hcause
    (w := queued) (by simp [Connection.held, hqueue])
  refine ⟨earlier, t, later, _, cause, sending, waiting, socket, heq, ht, hw, hticket,
    ((hi.sound_of_inFlight hw).line?_of_inFlight hw hline).1, hcourse, holds,
    ⟨v, hv, hvticket.trans hticket, ?_, ?_, ?_, rfl, fun hclock => ?_⟩, ?_, fun response hr => ?_⟩
  · rw [hvpayload]
    rwa [List.append_nil] at hsent
  · rw [hvpayload]
    rfl
  · rw [hvtime]
    rfl
  · have htime := Instant.ns_add_since (hcreated hclock) (hclock.now_le hcause)
    rw [hvtime] at htime ⊢
    exact htime
  · obtain ⟨he, rfl⟩ | ⟨hs, length, -, rfl⟩ := hcase
    · simpa [Connection.expectsResponse, hw, hconfig] using he
    · simpa using hmidway.expects hs
  · obtain ⟨-, rfl⟩ | ⟨-, length, hp, rfl⟩ := hcase
    · cases hr
    · obtain ⟨rfl, last, hlast, hcheck⟩ := hmidway.frame length hp
      obtain rfl : t.connection.block.held = response := by
        simpa [ReceiveBlock.takeFrame] using hr
      exact ⟨hheard.symm, last, hlast, hcheck⟩

/-- A run in which a response is cut off, and the next write is answered over a fresh socket. -/
def recoveryRun : List Move := sampleRun ++
  [.push { sampleWrite with ticket := 8, enqueuedAt := ⟨3⟩ }, .turn ⟨3⟩ (.accepted 1),
    .turn ⟨3⟩ .tick, .turn ⟨3⟩ .tick, .turn ⟨4⟩ (.received [65]), .turn ⟨4⟩ .tick,
    .turn ⟨4⟩ .tick, .turn ⟨5⟩ .ended, .turn ⟨5⟩ .tick, .turn ⟨5⟩ .tick, .connect,
    .turn ⟨6⟩ .command, .turn ⟨6⟩ .tick, .turn ⟨6⟩ .tick, .turn ⟨7⟩ (.dialled ⟨1, none, []⟩),
    .turn ⟨7⟩ .tick, .turn ⟨7⟩ .tick, .turn ⟨8⟩ (.accepted 1), .turn ⟨8⟩ .tick, .turn ⟨8⟩ .tick,
    .turn ⟨9⟩ (.received [66]), .turn ⟨9⟩ .tick, .turn ⟨9⟩ .tick, .turn ⟨9⟩ (.received [10]),
    .turn ⟨10⟩ .tick]

/-- No byte of the response that was cut off is in the other one. -/
theorem deliveries_true_recoveryRun :
    (8, .delivered ⟨1, some [66, 10], ⟨4⟩, ⟨3⟩⟩) ∈
        ((start ⟨0⟩ ⟨"node", 9001⟩ {} .line none).run recoveryRun).outcomes ∧
      Chronological recoveryRun ∧
      ∃ (earlier : List Turn) (t : Turn) (w : PendingWrite) (cause : Turn)
          (sending waiting : List Turn) (socket : SocketId), w.ticket = 8 ∧
        SinceBegun earlier w cause sending waiting ∧
        (∀ u ∈ sending ++ waiting, u.connection.socket = some socket) ∧
        (∃ v ∈ ((start ⟨0⟩ ⟨"node", 9001⟩ {} .line none).run recoveryRun).submitted,
          v.ticket = 8 ∧ sending.flatMap (·.progress.handed socket) = v.payload ∧
          v.enqueuedAt.ns + (4 + 3) = t.now.ns) ∧
        waiting.flatMap Turn.read = [66, 10] := by
  have hmem : (8, .delivered ⟨1, some [66, 10], ⟨4⟩, ⟨3⟩⟩) ∈
      ((start ⟨0⟩ ⟨"node", 9001⟩ {} .line none).run recoveryRun).outcomes := by decide
  have hclock : Chronological recoveryRun := by decide
  obtain ⟨earlier, t, later, w, cause, sending, waiting, socket, -, -, -, hticket, -, hcourse,
    holds, ⟨v, hv, hvticket, hsent, -, -, -, htime⟩, -, hresponse⟩ :=
    deliveries_true ⟨0⟩ ⟨"node", 9001⟩ {} .line none recoveryRun hmem
  exact ⟨hmem, hclock, earlier, t, w, cause, sending, waiting, socket, hticket, hcourse, holds,
    ⟨v, hv, hvticket, hsent, htime hclock⟩, (hresponse _ rfl).1.symm⟩

end Scene

end Uplink
