/-
What a turn does with the writes.

A write leaves the queue for the socket, and it leaves the connection when it is resolved.  A turn
does one of these things, or neither; and while a payload is written, it hands over a piece of what
remains of it.

* `Uplink.Connection.Handling` — what a turn does with the writes it finds;
* `Uplink.Connection.Intact.handling` — **every turn does one of these things**;
* `Uplink.Connection.Proceeds` — how the payload in flight goes on;
* `Uplink.Connection.Intact.proceeds` — **it is handed over piece by piece**.
-/

import Uplink.Proofs.Scene

set_option relaxedAutoImplicit false
set_option autoImplicit false

namespace Uplink

/-- The outcome tells of the whole payload; if it was not delivered, the outcome hands it back. -/
def Outcome.Keeps (payload : Bytes) : Outcome → Prop
  | delivered delivery => delivery.bytesSent = payload.length
  | undelivered returned => returned.payload = payload

/-- A task that writes may have a piece of the payload to hand over. -/
def Position.mayWrite : Position → Bool
  | entering | parked (.writing _) => true
  | _ => false

namespace Connection

variable {c : Connection} {now : Instant} {stimulus : Stimulus}

/-! ### What a turn does with the writes -/

/-- The writes that the connection keeps, the one in flight first. -/
def held (c : Connection) : List PendingWrite := c.inFlight.toList ++ c.queue

/-- What a turn does with the writes it finds. -/
inductive Handling (c : Connection) (now : Instant) (p : Progress) : Prop
  /-- The first write that waits is in flight now. -/
  | begins (w : PendingWrite) (hf : c.inFlight = none) (hq : c.queue = w :: p.next.queue)
      (hn : p.next.inFlight = some (w.dispatch now)) (ho : p.outcomes = [])
  /-- Some writes, perhaps none, are resolved. -/
  | ends (ended : List (PendingWrite × Outcome))
      (hheld : c.held = ended.map (·.1) ++ p.next.held)
      (hf : p.next.inFlight = c.inFlight ∨ p.next.inFlight = none)
      (hq : p.next.queue = c.queue ∨ p.next.queue = [])
      (ho : p.outcomes = ended.map fun e => (e.1.ticket, e.2))
      (hk : ∀ e ∈ ended, e.2.Keeps e.1.payload)

/-- The writes are left alone. -/
structure Calm (c : Connection) (p : Progress) : Prop where
  inFlight_eq : p.next.inFlight = c.inFlight
  queue_eq : p.next.queue = c.queue
  outcomes_eq : p.outcomes = []

/-- A turn may leave the writes alone. -/
theorem Calm.handling {p : Progress} (h : c.Calm p) : c.Handling now p :=
  .ends [] (by simp [held, h.inFlight_eq, h.queue_eq]) (.inl h.inFlight_eq) (.inl h.queue_eq)
    h.outcomes_eq nofun

/-- The write in flight, if there is one, may be resolved. -/
theorem Handling.of_inFlight {p : Progress} (outcome : PendingWrite → Outcome)
    (hf : p.next.inFlight = none) (hq : p.next.queue = c.queue)
    (ho : p.outcomes = c.inFlight.toList.map fun w => (w.ticket, outcome w))
    (hk : ∀ w, (outcome w).Keeps w.payload) : c.Handling now p := by
  refine .ends (c.inFlight.toList.map fun w => (w, outcome w)) ?_ (.inr hf) (.inl hq) ?_ ?_
  · simp [held, hf, hq, Function.comp_def]
  · simp [ho, Function.comp_def]
  · intro e he
    obtain ⟨w, -, rfl⟩ := List.mem_map.1 he
    exact hk w

/-- Everything may be cancelled. -/
theorem Handling.of_cancelled {p : Progress} (hf : p.next.inFlight = none)
    (hq : p.next.queue = [])
    (ho : p.outcomes = c.held.map fun w => (w.ticket, w.undelivered .cancelled)) :
    c.Handling now p := by
  refine .ends (c.held.map fun w => (w, w.undelivered .cancelled)) ?_ (.inr hf) (.inr hq) ?_ ?_
  · simp [held, hf, hq, Function.comp_def]
  · simp [ho, Function.comp_def]
  · intro e he
    obtain ⟨w, -, rfl⟩ := List.mem_map.1 he
    rfl

theorem handling_crash (keepAlive : KeepAlive) : c.Handling now { c with keepAlive }.crash := by
  have ho := { c with keepAlive }.outcomes_crash
  have hnext := { c with keepAlive }.next_crash
  cases hheld : c.isHeld with
  | true =>
      simp only [hheld, if_true, List.append_nil] at ho hnext
      refine .of_inFlight (·.undelivered .cancelled) ?_ ?_ ho fun _ => rfl
      · rw [hnext]
      · rw [hnext]
  | false =>
      simp only [hheld, Bool.false_eq_true, if_false] at ho hnext
      refine .of_cancelled ?_ ?_ ho
      · rw [hnext]
      · rw [hnext]

/-- A turn that fires no signal leaves the writes alone, unless the task crashes. -/
theorem Passing.calm {p : Progress} (hp : c.Passing now stimulus p) :
    c.Calm p ∨ ∃ keepAlive, p = { c with keepAlive }.crash :=
  hp.contained.imp_left fun h => ⟨by rw [h.next_eq], by rw [h.next_eq], h.outcomes_eq⟩

/-- A turn that fires no signal delivers no write. -/
theorem Passing.undelivered {p : Progress} (hp : c.Passing now stimulus p) :
    ∀ e ∈ p.outcomes, ∃ returned, e.2 = .undelivered returned := by
  intro e he
  rcases hp.calm with hcalm | ⟨keepAlive, rfl⟩
  · rw [hcalm.outcomes_eq] at he
    cases he
  · rw [outcomes_crash] at he
    obtain ⟨w, -, rfl⟩ := List.mem_map.1 he
    exact ⟨_, rfl⟩

theorem handling_beginWrite {d : Connection} {p : Progress} (hf : c.inFlight = none)
    (hq : c.queue ≠ []) (hd : d.queue = c.queue) (hp : p.next = d.beginWrite now)
    (ho : p.outcomes = []) : c.Handling now p := by
  obtain ⟨w, rest, hq⟩ := List.exists_cons_of_ne_nil hq
  refine .begins w hf ?_ ?_ ho
  · simp [hp, beginWrite, hd, hq]
  · simp [hp, beginWrite, hd, hq]

/-- What a turn that fires a signal does with the writes. -/
theorem Firing.handling {signal : Signal} {p : Progress} (hf : c.Firing now signal p)
    (h : c.Holding) : c.Handling now p := by
  cases hf with
  | rests => exact Calm.handling ⟨rfl, rfl, rfl⟩
  | readsOn =>
      refine Calm.handling ⟨?_, ?_, by simp⟩ <;> rw [next_moveTo] <;> rfl
  | connects | settles =>
      refine Calm.handling ⟨?_, ?_, by simp⟩ <;> rw [Progress.next_andThen, next_moveTo] <;> rfl
  | settlesBusy link took hs hq =>
      obtain ⟨-, hnone⟩ := h.idle (by rw [hs]; rfl)
      refine handling_beginWrite hnone hq ?_ rfl (by simp)
      rw [Progress.next_andThen, next_moveTo]
      rfl
  | dispatches hs hq =>
      obtain ⟨-, hnone⟩ := h.idle (by rw [hs]; rfl)
      refine handling_beginWrite hnone hq ?_ rfl (by simp)
      rw [next_moveTo]
      rfl
  | awaits bytes =>
      refine Calm.handling ⟨?_, ?_, by simp [absorb]⟩ <;>
        rw [Progress.next_andThen, Progress.next_andThen, next_moveTo] <;> rfl
  | delivers bytes =>
      refine .of_inFlight (·.delivered now none) (inFlight_resolve _ _ _) ?_ ?_ fun _ => rfl
      · rw [Progress.next_andThen, Progress.next_andThen, next_moveTo, queue_resolve]
        rfl
      · simp [absorb, next_moveTo, touch, attend]
  | drops bytes =>
      refine .of_inFlight (·.undelivered .cancelled) rfl ?_ ?_ fun _ => rfl
      · rw [Progress.next_andThen, Progress.next_andThen, next_moveTo]
        rfl
      · simp [absorb, next_moveTo, touch, attend]
  | responds length =>
      refine .of_inFlight (·.delivered now (some (c.block.takeFrame length)))
        (inFlight_resolve _ _ _) ?_ ?_ fun _ => rfl
      · rw [Progress.next_andThen, next_moveTo, queue_resolve]
        rfl
      · simp [next_moveTo, attend]
  | fails _ error event =>
      refine .of_inFlight (·.undelivered error) (inFlight_handleFail _ _ _) ?_ ?_ fun _ => rfl
      · rw [Progress.next_andThen, next_moveTo, queue_handleFail]
        rfl
      · simp [next_moveTo, attend]
  | closes waiter =>
      refine .of_cancelled rfl rfl ?_
      simp [next_moveTo, attend, held]

/-- **Every turn does one of these things** with the writes it finds. -/
theorem Intact.handling (h : c.Intact) (now : Instant) (stimulus : Stimulus) :
    c.Handling now (c.turn now stimulus) := by
  obtain ⟨-, hp⟩ | ⟨signal, hp, -, hf⟩ := turn_cases now stimulus h.fits
  · rcases hp.calm with hcalm | ⟨keepAlive, hcrash⟩
    · exact hcalm.handling
    · rw [hcrash]
      exact handling_crash keepAlive
  · exact hf.handling (h.sound (by rw [hp]; nofun)).toHolding

/-- The tickets that the connection keeps are kept or resolved, in order. -/
theorem Handling.tickets {p : Progress} (h : c.Handling now p) :
    c.held.map (·.ticket) = p.outcomes.map (·.1) ++ p.next.held.map (·.ticket) := by
  cases h with
  | begins w hf hq hn ho => simp [held, hf, hq, hn, ho]
  | ends ended hheld hf hq ho hk => simp [hheld, ho, Function.comp_def]

/-- A write that is kept keeps its payload, and the time of its creation. -/
theorem Handling.kept {p : Progress} {w : PendingWrite} (h : c.Handling now p)
    (hw : w ∈ p.next.held) : ∃ v ∈ c.held,
      v.ticket = w.ticket ∧ v.payload = w.payload ∧ v.enqueuedAt = w.enqueuedAt := by
  cases h with
  | begins v hf hq hn ho =>
      simp only [held, hn, Option.toList_some, List.singleton_append, List.mem_cons] at hw
      rcases hw with rfl | hw
      · exact ⟨v, by simp [held, hf, hq], rfl, rfl, rfl⟩
      · exact ⟨w, by simp [held, hf, hq, hw], rfl, rfl, rfl⟩
  | ends ended hheld hf hq ho hk =>
      exact ⟨w, by rw [hheld]; exact List.mem_append_right _ hw, rfl, rfl, rfl⟩

/-- A write that is resolved is told of as a whole. -/
theorem Handling.told {p : Progress} {e : Nat × Outcome} (h : c.Handling now p)
    (he : e ∈ p.outcomes) : ∃ v ∈ c.held, v.ticket = e.1 ∧ e.2.Keeps v.payload := by
  cases h with
  | begins w hf hq hn ho =>
      rw [ho] at he
      cases he
  | ends ended hheld hf hq ho hk =>
      rw [ho] at he
      obtain ⟨d, hd, rfl⟩ := List.mem_map.1 he
      refine ⟨d.1, ?_, rfl, hk d hd⟩
      rw [hheld]
      exact List.mem_append_left _ (List.mem_map_of_mem hd)

/-! ### What is handed to the socket -/

/-- What remains to be handed to the socket of the payload in flight, while it is written. -/
def remaining (c : Connection) : Option Bytes :=
  if c.status = .writing then
    match c.position with
    | .entering => c.inFlight.map (·.payload)
    | .parked (.writing unsent) => some unsent
    | _ => none
  else none

/-- What a step hands to the socket of the payload in flight. -/
def piece (c : Connection) (p : Progress) : Bytes :=
  if c.carrying.isSome then p.transmissions.flatMap (·.2) else []

theorem remaining_of_status (hs : c.status ≠ .writing) : c.remaining = none := if_neg hs

theorem piece_of_transmissions {p : Progress} (h : p.transmissions = []) : c.piece p = [] := by
  simp [piece, h]

/-- A task that fires a signal and writes afterwards was not busy before. -/
theorem Firing.idle_of_writing {signal : Signal} {p : Progress} (hf : c.Firing now signal p)
    (hfits : signal.Fits c) (hs' : p.next.status = .writing) : c.status.isBusy = false := by
  cases hf with
  | rests hr =>
      rw [hfits.status_of_rests hr]
      rfl
  | readsOn => simp at hs'
  | connects | closes => rw [Progress.next_andThen, next_moveTo] at hs'; cases hs'
  | settles link took hs | settlesBusy link took hs | dispatches hs => rw [hs]; rfl
  | awaits | drops =>
      rw [Progress.next_andThen, Progress.next_andThen, next_moveTo] at hs'
      cases hs'
  | delivers =>
      rw [Progress.next_andThen, Progress.next_andThen, next_moveTo, status_resolve] at hs'
      cases hs'
  | responds => rw [Progress.next_andThen, next_moveTo, status_resolve] at hs'; cases hs'
  | fails => rw [Progress.next_andThen, next_moveTo, status_handleFail] at hs'; cases hs'

/-- A task that fires a signal hands nothing to a socket. -/
theorem Firing.transmissions {signal : Signal} {p : Progress} (hf : c.Firing now signal p) :
    p.transmissions = [] := by
  cases hf <;> simp [absorb]

theorem remaining_of_position (hp : c.position.mayWrite = false) : c.remaining = none := by
  unfold remaining
  split
  · split
    next h => rw [h] at hp; cases hp
    next unsent h => rw [h] at hp; cases hp
    next => rfl
  · rfl

/-- What is handed to the socket of a payload. -/
theorem piece_transmit {unsent : Bytes} (count : Nat) {f : Connection → Progress} (h : c.Sound)
    (hp : c.position = .parked (.writing unsent)) (hf : (f c).transmissions = []) :
    c.piece ((c.transmit unsent count).andThen f) = unsent.take count := by
  have hs : c.status = .writing := h.fits_at hp
  obtain ⟨w, hw⟩ := h.exists_inFlight (by rw [hs]; rfl)
  obtain ⟨socket, hsocket⟩ := h.exists_socket (by rw [hs]; rfl)
  simp [piece, carrying, hp, hw, hsocket, hf]

theorem remaining_of_writing {unsent : Bytes} (h : c.Sound)
    (hp : c.position = .parked (.writing unsent)) : c.remaining = some unsent := by
  have hs : c.status = .writing := h.fits_at hp
  simp [remaining, hp, hs]

/-- How the payload in flight goes on in a step: a piece of what remains is handed over. -/
def Proceeds (c : Connection) (p : Progress) : Prop :=
  (c.piece p = [] ∨ ∃ rest, c.remaining = some (c.piece p ++ rest)) ∧
    ∀ rest, p.next.remaining = some rest → c.remaining = some (c.piece p ++ rest)

theorem Proceeds.of_none {p : Progress} (ht : p.transmissions = [])
    (hn : p.next.remaining = none) : c.Proceeds p :=
  ⟨.inl (piece_of_transmissions ht), fun rest hrest => by rw [hn] at hrest; cases hrest⟩

theorem Proceeds.of_eq {p : Progress} (ht : p.transmissions = [])
    (hn : p.next.remaining = c.remaining) : c.Proceeds p :=
  ⟨.inl (piece_of_transmissions ht), fun rest hrest => by
    rw [piece_of_transmissions ht, ← hn]
    exact hrest⟩

/-- Bytes handed over while no payload is written are not from one. -/
theorem Proceeds.of_quiet {p : Progress} (hc : ∀ unsent, c.position ≠ .parked (.writing unsent))
    (hn : p.next.remaining = none) : c.Proceeds p := by
  have hcarrying : c.carrying = none := by
    unfold carrying
    split
    next unsent h => exact absurd h (hc unsent)
    next => rfl
  have hpiece : c.piece p = [] := by simp [piece, hcarrying]
  exact ⟨.inl hpiece, fun rest hrest => by rw [hn] at hrest; cases hrest⟩

/-- The payload in flight is handed over piece by piece. -/
theorem Passing.proceeds {p : Progress} (hp : c.Passing now stimulus p) (h : c.Sound) :
    c.Proceeds p := by
  cases hp with
  | rests | swallows | plans => exact .of_eq rfl rfl
  | starts keepAlive hp =>
      have hs : c.status = .undefined := h.fits_at hp
      exact .of_none rfl (remaining_of_status (by simp [hs]))
  | crashes keepAlive =>
      refine .of_none (transmissions_crash _) (remaining_of_position ?_)
      rw [next_crash]
      rfl
  | finishes => exact .of_none (transmissions_finish _) (remaining_of_position rfl)
  | fails signal deadline keepAlive notices =>
      exact .of_none (transmissions_noticed _ _) (remaining_of_position rfl)
  | settles =>
      obtain ⟨block, -, heq⟩ := c.parkFree_eq
      rw [heq]
      exact .of_none rfl (remaining_of_position rfl)
  | answersPart bytes =>
      obtain ⟨block, -, heq⟩ := (c.receive bytes).parkFree_eq
      rw [heq]
      exact .of_none rfl (remaining_of_position rfl)
  | awaits =>
      obtain ⟨block, -, heq⟩ := c.makeRoom_eq
      rw [heq]
      exact .of_none rfl (remaining_of_position rfl)
  | writes w hp hs hw =>
      have hrem : c.remaining = some w.payload := by simp [Connection.remaining, hp, hs, hw]
      exact .of_eq rfl (by rw [hrem]; simp [Connection.remaining, hs, park])
  | sends unsent count hp hr =>
      have hpiece := piece_transmit count (f := (·.park (.writing (unsent.drop count)))) h hp rfl
      have hrem : c.remaining = some (unsent.take count ++ unsent.drop count) := by
        rw [List.take_append_drop]
        exact remaining_of_writing h hp
      have hs : c.status = .writing := h.fits_at hp
      rw [Proceeds, hpiece]
      refine ⟨.inr ⟨_, hrem⟩, fun rest hrest => ?_⟩
      simp only [Progress.next_andThen, next_transmit, park, Connection.remaining, hs, if_true,
        Option.some.injEq] at hrest
      rw [← hrest]
      exact hrem
  | sendsLast unsent count bytes hp hs hr =>
      have hpiece := piece_transmit count (f := (·.signal (.written bytes))) h hp rfl
      have hrem : c.remaining = some (unsent.take count ++ unsent.drop count) := by
        rw [List.take_append_drop]
        exact remaining_of_writing h hp
      have hnone : (c.signal (.written bytes)).next.remaining = none :=
        remaining_of_position rfl
      rw [Proceeds, hpiece, hrem]
      refine ⟨.inr ⟨_, rfl⟩, fun rest hrest => ?_⟩
      rw [Progress.next_andThen, next_transmit, hnone] at hrest
      cases hrest
  | probesOn probe unsent count tick expiry hp =>
      exact .of_quiet (by simp [hp]) (remaining_of_position rfl)
  | probesLast probe unsent count tick expiry hp =>
      obtain ⟨block, -, heq⟩ := c.completeProbe_eq probe tick
      refine .of_quiet (by simp [hp]) ?_
      rw [Progress.next_andThen, next_transmit, heq]
      exact remaining_of_position rfl
  | probesAtOnce keepAlive tick =>
      obtain ⟨block, -, heq⟩ := { c with keepAlive }.completeProbe_eq [] tick
      rw [heq]
      exact .of_none rfl (remaining_of_position rfl)
  | answersBeyond bytes hst hp hs => exact .of_none rfl (remaining_of_status (by
      change c.status ≠ .writing
      simp [hs]))
  | readsBeyond bytes hst hp hs => exact .of_none rfl (remaining_of_status (by
      change c.status ≠ .writing
      simp [hs]))
  | _ => exact .of_none rfl (remaining_of_position rfl)

/-- A task that fires a signal goes on with no payload that was in flight before. -/
theorem Firing.proceeds {signal : Signal} {p : Progress} (hf : c.Firing now signal p)
    (hfits : signal.Fits c) (hbusy : c.status.isBusy = true) : c.Proceeds p := by
  refine .of_none hf.transmissions (remaining_of_status fun hs => ?_)
  rw [hf.idle_of_writing hfits hs] at hbusy
  cases hbusy

/-- **The payload in flight is handed over piece by piece.**  A payload that was not in flight
before is handed over as a whole. -/
theorem Intact.proceeds (h : c.Intact) (now : Instant) (stimulus : Stimulus) :
    (c.inFlight.isSome = true → c.Proceeds (c.turn now stimulus)) ∧
      (c.inFlight = none → c.piece (c.turn now stimulus) = [] ∧
        ∀ w rest, (c.turn now stimulus).next.inFlight = some w →
          (c.turn now stimulus).next.remaining = some rest → rest = w.payload) := by
  obtain ⟨-, hp⟩ | ⟨signal, hpos, hfits, hf⟩ := turn_cases now stimulus h.fits
  · refine ⟨fun hbusy => ?_, fun hnone => ⟨?_, fun w rest hw => ?_⟩⟩
    · refine hp.proceeds (h.resolve_right fun hwrecked => ?_)
      rw [hwrecked.inFlight_eq] at hbusy
      cases hbusy
    · have hcarrying : c.carrying = none := by
        unfold carrying
        split <;> simp [hnone]
      simp [piece, hcarrying]
    · rcases hp.calm with hcalm | ⟨keepAlive, hcrash⟩
      · rw [hcalm.inFlight_eq, hnone] at hw
        cases hw
      · rw [hcrash, next_crash] at hw
        cases hw
  · have hs : c.Sound := h.sound (by rw [hpos]; nofun)
    refine ⟨fun hbusy => hf.proceeds hfits (hs.inFlight_iff.1 hbusy), fun _ =>
      ⟨piece_of_transmissions hf.transmissions, fun w rest hw hrest => ?_⟩⟩
    unfold remaining at hrest
    rcases hf.position_cases with hpos' | ⟨hpos', -⟩ <;> rw [hpos', hw] at hrest
    · split at hrest
      · cases hrest
        rfl
      · cases hrest
    · split at hrest <;> cases hrest

end Connection

end Uplink
