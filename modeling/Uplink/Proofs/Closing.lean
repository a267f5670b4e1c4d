/-
Who waits for the end of a close, and what stops a connection.

An owner that asks for a close and waits for it is first in the inbox, then in the signal that ends
a phase, then among those that the task has noted.  A turn moves it from one place to the next, or
releases it.  The work of closing is one action of the state machine; nothing else stops a
connection.

* `Uplink.Connection.Reading`, `Uplink.Connection.Passing.reading` — what a turn does with the
  commands;
* `Uplink.Connection.closers` — the owners that wait, in the order in which they asked;
* `Uplink.Connection.Intact.relays`, `Uplink.Connection.Intact.ending` — **a turn keeps those who
  wait, or releases them, and only a stopped task releases them**;
* `Uplink.Connection.action?` — the action that a turn performs;
* `Uplink.Connection.Intact.count_doClose`, `Uplink.Connection.turn_doClose` — **what stops a
  connection, and what it does to the writes**.
-/

import Uplink.Proofs.Record

set_option relaxedAutoImplicit false
set_option autoImplicit false

namespace Uplink

/-! ### Those who are released -/

/-- The owner that an effect releases. -/
def Effect.release? : Effect → Option Waiter
  | released waiter => some waiter
  | _ => none

/-- The owners that a step releases. -/
def Progress.releases (p : Progress) : List Waiter := p.effects.filterMap Effect.release?

theorem Progress.releases_eq (p : Progress) : p.releases = p.news.filterMap Effect.release? :=
  (p.filterMap_news _ fun e he => by cases e <;> first | rfl | cases he).symm

/-- The owner whose close was read, and not noted yet. -/
def Position.waiter? : Position → Option Waiter
  | signalled signal => signal.waiter?
  | _ => none

/-- A connect or a close was read, and is carried out next. -/
def Position.isAsked : Position → Bool
  | signalled .connect | signalled (.close _) => true
  | _ => false

theorem Position.waiter?_of_not_isAsked {position : Position} (h : position.isAsked = false) :
    position.waiter? = none := by
  cases position with
  | signalled signal => cases signal <;> first | rfl | cases h
  | _ => rfl

/-- Nothing but a close closes, and it does so once. -/
theorem transition_doClose_iff (source : Status) (event : Event) :
    (transition source event).toOption.map (·.action) = some .doClose ↔
      event = .close ∧ source ≠ .stopped := by
  cases event with
  | connected queued => cases source <;> cases queued <;> decide
  | writeComplete expects => cases source <;> cases expects <;> decide
  | _ => cases source <;> decide

namespace Connection

variable {c : Connection} {now : Instant} {stimulus : Stimulus}

/-- The action that a turn performs. -/
def action? (c : Connection) : Option Action :=
  match c.position with
  | .signalled signal =>
      (c.eventOf? signal).bind fun event => (transition c.status event).toOption.map (·.action)
  | _ => none

/-- The owners that wait for the end of a close, in the order in which they asked for it. -/
def closers (c : Connection) : List Waiter :=
  c.waiters ++ c.position.waiter?.toList ++ c.unreadWaiters

theorem eventOf?_eq_close_iff {signal : Signal} :
    c.eventOf? signal = some .close ↔ ∃ waiter, signal = .close waiter := by
  cases signal with
  | dispatch =>
      simp only [eventOf?]
      split <;> simp
  | _ => simp [eventOf?]

theorem action?_eq_doClose_iff : c.action? = some .doClose ↔
    c.status ≠ .stopped ∧ ∃ waiter, c.position = .signalled (.close waiter) := by
  cases hp : c.position with
  | signalled signal =>
      simp only [action?, hp, Option.bind_eq_some_iff, transition_doClose_iff]
      constructor
      · rintro ⟨event, he, rfl, hs⟩
        obtain ⟨waiter, rfl⟩ := eventOf?_eq_close_iff.1 he
        exact ⟨hs, waiter, rfl⟩
      · rintro ⟨hs, waiter, hw⟩
        cases hw
        exact ⟨.close, rfl, rfl, hs⟩
  | _ => simp [action?, hp]

/-! ### Who is released -/

@[simp] theorem releases_andThen (p : Progress) (f : Connection → Progress) :
    (p.andThen f).releases = p.releases ++ (f p.next).releases := by
  simp [Progress.releases]

theorem releases_of_news {p : Progress} (h : p.news = []) : p.releases = [] := by
  rw [Progress.releases_eq, h]
  rfl

@[simp] theorem releases_transmit (unsent : Bytes) (count : Nat) :
    (c.transmit unsent count).releases = [] := by
  rw [Progress.releases_eq, news_transmit, filterMap_map_of_none fun _ => rfl]

@[simp] theorem releases_finish : c.finish.releases = c.waiters ++ c.unreadWaiters := by
  rw [Progress.releases_eq, news_finish]
  simp [List.filterMap_map, Function.comp_def, Effect.release?]

@[simp] theorem releases_crash : c.crash.releases = c.waiters ++ c.unreadWaiters := by
  rw [Progress.releases_eq, news_crash, List.filterMap_append,
    filterMap_map_of_none (f := fun w : PendingWrite => Effect.resolved _ _) fun _ => rfl]
  simp [List.filterMap_map, Function.comp_def, Effect.release?]

/-- A command that is read takes the owner that waits for it out of the inbox. -/
theorem unreadWaiters_of_head? {command : Command} (h : c.inbox.head? = some command) :
    c.unreadWaiters = command.signal.waiter?.toList ++
      { c with inbox := c.inbox.tail }.unreadWaiters := by
  obtain ⟨rest, hi⟩ := List.head?_eq_some_iff.1 h
  rw [unreadWaiters, unreadWaiters, hi]
  cases command with
  | close waiter => cases waiter <;> rfl
  | _ => rfl

/-- What a turn that fires no signal does with the commands. -/
inductive Reading (c : Connection) (p : Progress) : Prop
  /-- It reads none. -/
  | none (hr : p.releases = []) (hw : p.next.waiters = c.waiters) (hi : p.next.inbox = c.inbox)
      (hp : p.next.position = c.position ∨ p.next.position.isAsked = false)
  /-- It reads one that means nothing. -/
  | swallows (command : Command) (hi : c.inbox.head? = some command)
      (hc : ∀ waiter, command ≠ .close waiter)
      (hn : p = ⟨{ c with inbox := c.inbox.tail }, []⟩)
  /-- It reads one that is carried out next. -/
  | obeys (command : Command)
      (hi : c.inbox.head? = some command ∨ c.inbox = [] ∧ command = .close Option.none)
      (hn : p = { c with inbox := c.inbox.tail }.signal command.signal)
  /-- The task ends, and drops them. -/
  | ends (hr : p.releases = c.waiters ++ c.unreadWaiters) (hw : p.next.waiters = [])
      (hi : p.next.inbox = []) (hp : p.next.position.isAsked = false)

/-- Whatever a turn does that fires no signal, it is one of these. -/
theorem Passing.reading {p : Progress} (hp : c.Passing now stimulus p) : c.Reading p := by
  cases hp with
  | rests | plans => exact .none rfl rfl rfl (.inl rfl)
  | crashes keepAlive =>
      refine .ends releases_crash ?_ ?_ ?_ <;> rw [next_crash]
      rfl
  | finishes => exact .ends releases_finish rfl rfl rfl
  | fails signal deadline keepAlive notices herror =>
      refine .none (releases_of_news (news_noticed _ _)) rfl rfl (.inr ?_)
      cases signal <;> first | rfl | cases herror
  | swallows phase command hp hi hc => exact .swallows command hi hc rfl
  | obeys phase command hp hi => exact .obeys command (hi.imp_right fun h => ⟨h.1, h.2.2⟩) rfl
  | reads bytes =>
      refine .none rfl rfl rfl (.inr ?_)
      obtain ⟨hv, -⟩ | ⟨hv, -⟩ | ⟨fault, hv⟩ := ((c.receive bytes).touch now).verdict_cases
      all_goals
        rw [hv]
        rfl
  | readsBeyond bytes _ _ _ hroom =>
      refine .none rfl rfl rfl (.inr ?_)
      rw [position_touch_of_hasRoom (c := c.receive bytes) hroom]
      rfl
  | answersBeyond bytes _ _ _ _ hroom =>
      refine .none rfl rfl rfl (.inr ?_)
      rw [Progress.next_andThen, next_say,
        position_endProbe_of_hasRoom (c := c.receive bytes) hroom]
      rfl
  | sends | sendsLast | probesOn => exact .none (by simp; rfl) rfl rfl (.inr rfl)
  | settles =>
      obtain ⟨block, -, heq⟩ := c.parkFree_eq
      rw [heq]
      exact .none rfl rfl rfl (.inr rfl)
  | awaits =>
      obtain ⟨block, -, heq⟩ := c.makeRoom_eq
      rw [heq]
      exact .none rfl rfl rfl (.inr rfl)
  | probesLast probe unsent count tick =>
      obtain ⟨block, -, heq⟩ := c.completeProbe_eq probe tick
      refine .none ?_ ?_ ?_ (.inr ?_)
      · rw [releases_andThen, releases_transmit, next_transmit, heq]
        rfl
      · rw [Progress.next_andThen, next_transmit, heq]
      · rw [Progress.next_andThen, next_transmit, heq]
      · rw [Progress.next_andThen, next_transmit, heq]
        rfl
  | probesAtOnce keepAlive tick =>
      obtain ⟨block, -, heq⟩ := { c with keepAlive }.completeProbe_eq [] tick
      rw [heq]
      exact .none rfl rfl rfl (.inr rfl)
  | answersPart bytes =>
      obtain ⟨block, -, heq⟩ := (c.receive bytes).parkFree_eq
      rw [heq]
      exact .none rfl rfl rfl (.inr rfl)
  | _ => exact .none rfl rfl rfl (.inr rfl)

/-- A turn that fires no signal keeps the owners that wait, or releases them. -/
theorem Passing.relays {p : Progress} (hp : c.Passing now stimulus p)
    (hsig : c.position.isSignalled = false) : p.releases ++ p.next.closers = c.closers := by
  have hcalm : c.position.waiter? = none := by
    cases h : c.position <;> first | rfl | (rw [h] at hsig; cases hsig)
  rw [show c.closers = c.waiters ++ c.unreadWaiters by simp [closers, hcalm]]
  cases hp.reading with
  | none hr hw hi hpos =>
      have hnone : p.next.position.waiter? = none := by
        rcases hpos with hpos | hpos
        · rw [hpos, hcalm]
        · exact Position.waiter?_of_not_isAsked hpos
      simp [closers, unreadWaiters, hr, hw, hi, hnone]
  | swallows command hi hc hn =>
      rw [c.unreadWaiters_of_head? hi, hn]
      cases command with
      | close waiter => exact absurd rfl (hc waiter)
      | _ => simp [closers, hcalm, unreadWaiters, Progress.releases, Command.signal, Signal.waiter?]
  | obeys command hi hn =>
      -- The owner leaves the inbox and stands in the signal.
      rw [hn]
      rcases hi with hi | ⟨hi, rfl⟩
      · rw [c.unreadWaiters_of_head? hi]
        exact List.append_assoc _ _ _
      · simp [closers, signal, Progress.releases, Command.signal, Position.waiter?,
          Signal.waiter?, unreadWaiters, hi]
  | ends hr hw hi hpos =>
      have hnone := Position.waiter?_of_not_isAsked hpos
      simp [closers, unreadWaiters, hr, hw, hi, hnone]

section

variable (d : Connection)

@[simp] theorem waiters_beginWrite : (d.beginWrite now).waiters = d.waiters := by
  unfold beginWrite
  cases d.queue <;> rfl

@[simp] theorem inbox_beginWrite : (d.beginWrite now).inbox = d.inbox := by
  unfold beginWrite
  cases d.queue <;> rfl

@[simp] theorem waiters_resolve (response? : Option Nat) :
    (d.resolve now response?).next.waiters = d.waiters := by
  unfold resolve
  cases d.inFlight <;> rfl

@[simp] theorem inbox_resolve (response? : Option Nat) :
    (d.resolve now response?).next.inbox = d.inbox := by
  unfold resolve
  cases d.inFlight <;> rfl

@[simp] theorem waiters_handleFail (error? : Option ConnectionError) :
    (d.handleFail now error?).next.waiters = d.waiters := by
  unfold handleFail failInFlight
  cases d.inFlight <;> rfl

@[simp] theorem inbox_handleFail (error? : Option ConnectionError) :
    (d.handleFail now error?).next.inbox = d.inbox := by
  unfold handleFail failInFlight
  cases d.inFlight <;> rfl

end

/-- A turn that fires a signal releases nobody. -/
theorem Firing.releases_eq {signal : Signal} {p : Progress} (hf : c.Firing now signal p) :
    p.releases = [] := by
  rw [Progress.releases_eq]
  cases hf <;> simp [news_moveTo, absorb, Effect.release?]

/-- A turn that fires a signal reads no command. -/
theorem Firing.inbox_eq {signal : Signal} {p : Progress} (hf : c.Firing now signal p) :
    p.next.inbox = c.inbox := by
  cases hf <;> simp [next_moveTo, attend, absorb, touch, startConnect, establish, doClose]

/-- A turn that fires a signal notes the owner that waits for it. -/
theorem Firing.relays {signal : Signal} {p : Progress} (hf : c.Firing now signal p)
    (hp : c.position = .signalled signal) : p.releases ++ p.next.closers = c.closers := by
  have hn : p.next.waiters = c.waiters ++ signal.waiter?.toList := by
    cases hf <;> simp [next_moveTo, attend, absorb, touch, startConnect, establish, doClose]
  have hnone : p.next.position.waiter? = none := by
    rcases hf.position_cases with hpos | ⟨hpos, -⟩ <;> rw [hpos] <;> rfl
  rw [hf.releases_eq, closers, hnone, hn, closers, hp, unreadWaiters, hf.inbox_eq]
  simp [Position.waiter?, unreadWaiters]

/-- **A turn keeps the owners that wait for a close, or releases them**, in the order in which they
asked. -/
theorem Intact.relays (h : c.Intact) (now : Instant) (stimulus : Stimulus) :
    (c.turn now stimulus).releases ++ (c.turn now stimulus).next.closers = c.closers := by
  obtain ⟨hsig, hp⟩ | ⟨signal, hpos, -, hf⟩ := turn_cases now stimulus h.fits
  · exact hp.relays hsig
  · exact hf.relays hpos

/-- A task that is about to be stopped is not gone yet. -/
theorem isGone_of_overflowed {d : Connection} (h : d.position = .overflowed) :
    d.isGone = false := by
  rw [isGone, h]
  rfl

/-- A turn that fires no signal releases nobody and does not end the task, unless a stopped task is
done, or it crashes. -/
theorem Passing.ending {p : Progress} (hp : c.Passing now stimulus p) :
    p.releases = [] ∧ (p.next.isGone = true → c.isGone = true) ∨
      p = c.finish ∧ (c.exiting = true ∨ c.status = .stopped) ∨
      ∃ keepAlive, p = { c with keepAlive }.crash := by
  cases hp with
  | rests | plans | swallows => exact .inl ⟨rfl, id⟩
  | finishes hp hs => exact .inr (.inl ⟨rfl, hs⟩)
  | crashes keepAlive => exact .inr (.inr ⟨keepAlive, rfl⟩)
  | fails => exact .inl ⟨releases_of_news (news_noticed _ _), nofun⟩
  | readsBeyond bytes _ _ _ hroom =>
      have hlives := isGone_of_overflowed (position_touch_of_hasRoom (c := c.receive bytes) hroom)
      exact .inl ⟨rfl, fun hgone => absurd hgone (Bool.eq_false_iff.1 hlives)⟩
  | answersBeyond bytes _ _ _ _ hroom =>
      have hlives :=
        isGone_of_overflowed (position_endProbe_of_hasRoom (c := c.receive bytes) hroom)
      exact .inl ⟨rfl, fun hgone => absurd hgone (Bool.eq_false_iff.1 hlives)⟩
  | sends | sendsLast | probesOn => exact .inl ⟨by simp; rfl, nofun⟩
  | settles =>
      obtain ⟨block, -, heq⟩ := c.parkFree_eq
      rw [heq]
      exact .inl ⟨rfl, nofun⟩
  | awaits =>
      obtain ⟨block, -, heq⟩ := c.makeRoom_eq
      rw [heq]
      exact .inl ⟨rfl, nofun⟩
  | probesLast probe unsent count tick =>
      obtain ⟨block, -, heq⟩ := c.completeProbe_eq probe tick
      rw [releases_andThen, Progress.next_andThen, releases_transmit, next_transmit, heq]
      exact .inl ⟨rfl, nofun⟩
  | probesAtOnce keepAlive tick =>
      obtain ⟨block, -, heq⟩ := { c with keepAlive }.completeProbe_eq [] tick
      rw [heq]
      exact .inl ⟨rfl, nofun⟩
  | answersPart bytes =>
      obtain ⟨block, -, heq⟩ := (c.receive bytes).parkFree_eq
      rw [heq]
      exact .inl ⟨rfl, nofun⟩
  | _ => exact .inl ⟨rfl, nofun⟩

/-- **Only a stopped task releases those who wait**, unless it crashes. -/
theorem Intact.ending (h : c.Intact) (now : Instant) (stimulus : Stimulus) :
    (c.turn now stimulus).releases = [] ∧
        ((c.turn now stimulus).next.isGone = true → c.isGone = true) ∨
      c.turn now stimulus = c.finish ∧ c.status = .stopped ∨
      (c.turn now stimulus).next.position = .crashed ∧
        (c.turn now stimulus).next.closers = [] := by
  obtain ⟨-, hp⟩ | ⟨signal, -, -, hf⟩ := turn_cases now stimulus h.fits
  · rcases h with h | h
    · obtain hquiet | ⟨heq, hs⟩ | ⟨keepAlive, heq⟩ := hp.ending
      · exact .inl hquiet
      · exact .inr (.inl ⟨heq, hs.elim h.exiting_iff.1 id⟩)
      · rw [heq, next_crash]
        exact .inr (.inr ⟨rfl, rfl⟩)
    · rw [h.turn_eq]
      exact .inl ⟨rfl, id⟩
  · refine .inl ⟨hf.releases_eq, fun hgone => ?_⟩
    rcases hf.position_cases with hpos | ⟨hpos, -⟩ <;> simp [isGone, hpos] at hgone

/-! ### How a connection comes to be stopped -/

/-- A turn that fires a signal stops the connection if it is asked to, and only then. -/
theorem Firing.stopped_iff {signal : Signal} {p : Progress} (hf : c.Firing now signal p)
    (hlive : c.status ≠ .stopped) :
    p.next.status = .stopped ↔ ∃ waiter, signal = .close waiter := by
  have hbegin (d : Connection) : (d.beginWrite now).status = d.status := by
    unfold beginWrite
    cases d.queue <;> rfl
  cases hf with
  | rests hr => rcases hr with rfl | ⟨rfl, -⟩ <;> simp [attend, hlive]
  | fails _ error event herror =>
      have hne : ¬∃ waiter, signal = .close waiter := by
        rintro ⟨waiter, rfl⟩
        cases herror
      simp [hne]
  | _ => simp [next_moveTo, attend, startConnect, establish, absorb, touch, doClose, hbegin]

/-- A turn that performs `doClose` stops a connection, and no other turn does. -/
theorem Intact.count_doClose (h : c.Intact) (now : Instant) (stimulus : Stimulus) :
    (if c.status = .stopped then 1 else 0) + c.action?.toList.count .doClose =
      if (c.turn now stimulus).next.status = .stopped then 1 else 0 := by
  have hcount : c.action?.toList.count .doClose = if c.action? = some .doClose then 1 else 0 := by
    cases c.action? with
    | none => rfl
    | some action => simp [List.count_singleton]
  rw [hcount]
  -- What is stopped is not closed again; otherwise `doClose` is what a close does.
  by_cases hs : c.status = .stopped
  · have hno : c.action? ≠ some .doClose := fun ha => (action?_eq_doClose_iff.1 ha).1 hs
    cases h.changing now stimulus with
    | stays hs' => simp [hs, hs', hno]
    | moves target hne hlive => exact absurd hs hlive
  · obtain ⟨hsig, hp⟩ | ⟨signal, hpos, -, hf⟩ := turn_cases now stimulus h.fits
    · have hno : c.action? ≠ some .doClose := fun ha => by
        obtain ⟨-, waiter, hp⟩ := action?_eq_doClose_iff.1 ha
        rw [hp] at hsig
        cases hsig
      simp [hs, hp.settled.status_eq, hno]
    · have hiff : c.action? = some .doClose ↔ (c.turn now stimulus).next.status = .stopped := by
        rw [action?_eq_doClose_iff, hf.stopped_iff hs]
        simp [hs, hpos]
      simp [hs, hiff]

/-- What a turn that performs `doClose` does: the connection is stopped, and all its writes are
cancelled. -/
theorem turn_doClose (ha : c.action? = some .doClose) (now : Instant)
    (stimulus : Stimulus) : (c.turn now stimulus).next.status = .stopped ∧
      (c.turn now stimulus).next.queue = [] ∧ (c.turn now stimulus).next.inFlight = none ∧
      (c.turn now stimulus).outcomes = (c.inFlight.toList ++ c.queue).map
        fun w => (w.ticket, .undelivered ⟨w.payload, .cancelled⟩) := by
  obtain ⟨hlive, waiter, hp⟩ := action?_eq_doClose_iff.1 ha
  have hf : c.Firing now (.close waiter) (c.fire now (.close waiter)) := firing hlive
  have hturn : c.turn now stimulus = c.fire now (.close waiter) := by
    unfold Connection.turn
    rw [hp]
  rw [hturn]
  generalize c.fire now (.close waiter) = p at hf
  cases hf with
  | rests hr => rcases hr with hr | ⟨hr, -⟩ <;> cases hr
  | fails _ error event herror => cases herror
  | closes =>
      refine ⟨by simp [doClose], by simp [doClose], by simp [doClose], ?_⟩
      rw [Progress.outcomes_andThen, outcomes_moveTo, outcomes_doClose, next_moveTo]
      rfl

end Connection

end Uplink
