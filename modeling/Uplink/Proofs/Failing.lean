/-
What a failure leaves behind.

Whatever goes wrong with a connection comes to one piece of work, `handleFail`, which has an error
to go by.  It fails the write in flight, and nothing else: the writes that wait go on waiting, in
their order.  Until a connect succeeds none of them is sent, and then the first of them is the first
that is.

* `Uplink.Connection.Failing` — what the failure of a connection does;
* `Uplink.Connection.turn_handleFail` — **that is all that `handleFail` does**, whatever went wrong;
* `Uplink.Connection.Joining` — how a turn comes by a socket;
* `Uplink.Scene.Standstill` — nothing was sent since, and what waited still waits in front;
* `Uplink.Scene.standstill_run` — **so it is until a connect succeeds**;
* `Uplink.Scene.Standstill.connected` — the connect that succeeds sends the first write;
* `Uplink.Scene.failure_isolated` — what it means for those who submit writes.
-/

import Uplink.Proofs.Closing
import Uplink.Proofs.Order
import Uplink.Proofs.Wake

set_option relaxedAutoImplicit false
set_option autoImplicit false

namespace Uplink

/-- Work that fails a connection goes with an event that tells of an error. -/
theorem eq_of_transition_handleFail {source : Status} {event : Event} {step : Step}
    (h : transition source event = .ok step) (ha : step.action = .handleFail) :
    event = .connectFailed ∨ event = .writeFailed ∨ event = .responseFailed ∨
      event = .idleTimeout := by
  cases event with
  | connectFailed => exact .inl rfl
  | writeFailed => exact .inr (.inl rfl)
  | responseFailed => exact .inr (.inr (.inl rfl))
  | idleTimeout => exact .inr (.inr (.inr rfl))
  | connected queued => cases source <;> cases queued <;> cases h <;> cases ha
  | writeComplete expects => cases source <;> cases expects <;> cases h <;> cases ha
  | _ => cases source <;> cases h <;> cases ha

namespace Connection

variable {c : Connection} {now : Instant} {stimulus : Stimulus}

/-! ### The failure of a connection -/

/-- What the failure of a connection does: the write in flight is failed with the error, the writes
that wait stay, and everything else that belongs to the socket goes with it. -/
structure Failing (c : Connection) (now : Instant) (error : ConnectionError) (p : Progress) :
    Prop where
  queue_eq : p.next.queue = c.queue
  outcomes_eq : p.outcomes =
    c.inFlight.toList.map fun w => (w.ticket, .undelivered ⟨w.payload, error⟩)
  inFlight_eq : p.next.inFlight = none
  failure_eq : p.next.failure = some ⟨error, now⟩
  status_eq : p.next.status = .connectFailed
  isBusy_eq : p.next.isBusy = false
  socket_eq : p.next.socket = none
  isArmed_eq : p.next.deadline.isArmed = false
  isProbing_eq : p.next.keepAlive.isProbing = false
  held_eq : p.next.block.held = []

theorem failing_handleFail (d : Connection) (now : Instant) (error : ConnectionError)
    (hs : d.status = .connectFailed) :
    d.Failing now error (d.handleFail now (some error)) where
  queue_eq := queue_handleFail _ _ _
  outcomes_eq := outcomes_handleFail _ _ _
  inFlight_eq := inFlight_handleFail _ _ _
  failure_eq := by
    unfold handleFail failInFlight
    cases d.inFlight <;> rfl
  status_eq := by rw [status_handleFail, hs]
  isBusy_eq := by
    unfold handleFail failInFlight
    cases d.inFlight <;> rfl
  socket_eq := socket_handleFail _ _ _
  isArmed_eq := by
    unfold handleFail failInFlight
    cases d.inFlight <;> rfl
  isProbing_eq := by rw [keepAlive_handleFail, KeepAlive.isProbing_clearProbe]
  held_eq := by
    unfold handleFail failInFlight
    cases d.inFlight <;> rfl

/-- A signal with an error fails the connection. -/
theorem Firing.failing {signal : Signal} {error : ConnectionError} {p : Progress}
    (hf : c.Firing now signal p) (herror : signal.error? = some error) :
    c.Failing now error p := by
  cases hf with
  | fails _ error' event herror' =>
      obtain rfl : error' = error := Option.some.inj (herror'.symm.trans herror)
      have hmoved := ((c.attend signal).moveTo .connectFailed event).next.failing_handleFail
        now error' (status_moveTo _ _ _)
      have hqueue : ((c.attend signal).moveTo .connectFailed event).next.queue = c.queue := by
        rw [next_moveTo]
        rfl
      have hflight : ((c.attend signal).moveTo .connectFailed event).next.inFlight =
          c.inFlight := by
        rw [next_moveTo]
        rfl
      refine { hmoved with queue_eq := hmoved.queue_eq.trans hqueue, outcomes_eq := ?_ }
      rw [Progress.outcomes_andThen, outcomes_moveTo, List.nil_append, hmoved.outcomes_eq, hflight]
  | rests hr => rcases hr with rfl | ⟨rfl, -⟩ <;> cases herror
  | _ => cases herror

/-- A turn that performs `handleFail` has an error to go by. -/
theorem error?_of_handleFail (h : c.action? = some .handleFail) :
    ∃ signal error, c.position = .signalled signal ∧ signal.error? = some error := by
  cases hp : c.position with
  | signalled signal =>
      simp only [action?, hp, Option.bind_eq_some_iff, Option.map_eq_some_iff] at h
      obtain ⟨event, he, step, ht, ha⟩ := h
      have hstep : transition c.status event = .ok step := by
        cases htr : transition c.status event with
        | ok other =>
            rw [htr] at ht
            exact congrArg Except.ok (Option.some.inj ht)
        | error fault =>
            rw [htr] at ht
            cases ht
      have hevent := eq_of_transition_handleFail hstep ha
      refine ⟨signal, ?_⟩
      cases signal with
      | connectFailed error | writeFailed error | responseFailed error => exact ⟨error, rfl, rfl⟩
      | idle span => exact ⟨.idleTimeout span, rfl, rfl⟩
      | dispatch =>
          simp only [eventOf?] at he
          split at he
          · cases he
          · cases he
            simp at hevent
      | again => cases he
      | _ =>
          cases he
          simp at hevent
  | _ => simp [action?, hp] at h

/-- A task whose phase has ended fires the signal. -/
theorem Intact.firing_turn (h : c.Intact) {signal : Signal} (hp : c.position = .signalled signal)
    (now : Instant) (stimulus : Stimulus) : c.Firing now signal (c.turn now stimulus) := by
  obtain ⟨hsig, -⟩ | ⟨signal', hp', -, hf⟩ := turn_cases now stimulus h.fits
  · rw [hp] at hsig
    cases hsig
  · rw [hp] at hp'
    cases hp'
    exact hf

/-- **What `handleFail` does**, whatever went wrong. -/
theorem turn_handleFail (h : c.Intact) (ha : c.action? = some .handleFail) (now : Instant)
    (stimulus : Stimulus) :
    ∃ error, c.position.error? = some error ∧ c.Failing now error (c.turn now stimulus) := by
  obtain ⟨signal, error, hp, herror⟩ := error?_of_handleFail ha
  exact ⟨error, by rw [hp]; exact herror, (h.firing_turn hp now stimulus).failing herror⟩

/-! ### How a turn comes by a socket -/

/-- A turn takes a fresh socket, and counts it; or it has one only if there was one. -/
inductive Joining (c : Connection) (p : Progress) : Prop
  | stays (hk : p.next.counters.connects = c.counters.connects)
      (hs : p.next.status.isConnected = true → c.status.isConnected = true)
  | joins (hk : p.next.counters.connects = c.counters.connects + 1)

theorem Passing.joining {p : Progress} (hp : c.Passing now stimulus p) : c.Joining p :=
  .stays (by rw [hp.counters_eq]) (by rw [hp.settled.status_eq]; exact id)

@[simp] theorem connects_ite_moved {q : Prop} [Decidable q] (k : Counters) :
    (if q then k else k.moved).connects = k.connects := by
  split <;> rfl

@[simp] theorem counters_beginWrite (d : Connection) :
    (d.beginWrite now).counters = d.counters := by
  unfold beginWrite
  cases d.queue <;> rfl

@[simp] theorem connects_resolve (d : Connection) (response? : Option Nat) :
    (d.resolve now response?).next.counters.connects = d.counters.connects := by
  unfold resolve
  cases d.inFlight <;> cases response? <;> rfl

theorem connects_handleFail (d : Connection) (error : ConnectionError) :
    (d.handleFail now (some error)).next.counters.connects = d.counters.connects := by
  have hcount : (countFailure d.counters error).connects = d.counters.connects := by
    unfold countFailure
    split <;> rfl
  rw [counters_handleFail]
  split <;> exact hcount

theorem Firing.joining {signal : Signal} {p : Progress} (hf : c.Firing now signal p) :
    c.Joining p := by
  cases hf with
  | rests => exact .stays rfl id
  | settles => exact .joins (by simp [next_moveTo, establish, touch, attend, Counters.connected])
  | settlesBusy =>
      exact .joins (by
        simp [next_moveTo, establish, touch, attend, Counters.connected])
  | readsOn hs | dispatches hs | awaits bytes hs | delivers bytes hs | drops bytes hs
  | responds length hs =>
      refine .stays ?_ fun _ => by rw [hs]; rfl
      simp [next_moveTo, attend, absorb, touch, Counters.sent]
  | connects =>
      refine .stays ?_ fun h => ?_
      · simp [next_moveTo, attend, startConnect, Counters.attempted]
      · rw [Progress.next_andThen, next_moveTo] at h
        cases h
  | fails _ error event =>
      refine .stays ?_ fun h => ?_
      · rw [Progress.next_andThen, connects_handleFail, next_moveTo]
        exact connects_ite_moved _
      · rw [Progress.next_andThen, status_handleFail, status_moveTo] at h
        cases h
  | closes =>
      refine .stays ?_ fun h => ?_
      · simp [next_moveTo, attend, doClose, Counters.cancelled]
      · rw [Progress.next_andThen, next_moveTo] at h
        cases h

/-- **A turn has a socket only if there was one, or it takes a fresh one.** -/
theorem Intact.joining (h : c.Intact) (now : Instant) (stimulus : Stimulus) :
    c.Joining (c.turn now stimulus) := by
  obtain ⟨-, hp⟩ | ⟨signal, -, -, hf⟩ := turn_cases now stimulus h.fits
  · exact hp.joining
  · exact hf.joining

/-- A connect that succeeds begins the first write that waits: all of its payload is to be handed to
the fresh socket. -/
theorem Sound.turn_connected (h : c.Sound) {link : Link} {took : Duration}
    (hp : c.position = .signalled (.connected link took)) {w : PendingWrite}
    {rest : List PendingWrite} (hq : c.queue = w :: rest) (now : Instant) (stimulus : Stimulus) :
    c.begun (c.turn now stimulus).next = [w.ticket] ∧
      (c.turn now stimulus).next.inFlight = some (w.dispatch now) ∧
      (c.turn now stimulus).next.queue = rest ∧
      (c.turn now stimulus).next.load? = some (some w.ticket, w.payload) ∧
      (c.turn now stimulus).next.live? = some link.socket := by
  have hf := Intact.firing_turn (.inl h) hp now stimulus
  obtain ⟨hstatus, hflight, hqueue⟩ := hf.begins_connected (by simp [hq])
  rw [hq] at hflight hqueue
  have hs : c.status = .connecting := h.fits_at hp
  obtain ⟨-, hidle⟩ := h.idle (by rw [hs]; rfl)
  have hbegun : c.begun (c.turn now stimulus).next = [w.ticket] := by
    simp [begun, hidle, hflight]
  refine ⟨hbegun, hflight, hqueue, ?_, ?_⟩
  · rcases hf.position_cases with hpos | ⟨hpos, -⟩ <;>
      simp [load?, hpos, hstatus, hflight, PendingWrite.dispatch]
  · cases Intact.sending (.inl h) now stimulus with
    | begins socket ticket content hl hl' =>
        have hfresh : c.live? = some link.socket := by simp [live?, hp]
        rw [hl', ← hl, hfresh]
    | keeps _ _ hb | parts _ _ hb | dials _ _ _ _ hb | sends _ _ _ _ _ _ _ hb =>
        rw [hbegun] at hb
        cases hb

/-- Without a socket, no write is in flight. -/
theorem Intact.inFlight_of_isConnected (h : c.Intact) (hs : c.status.isConnected = false) :
    c.inFlight = none := by
  rcases h with h | h
  · refine (h.idle ?_).2
    cases hc : c.status <;> rw [hc] at hs <;> first | rfl | cases hs
  · exact h.inFlight_eq

end Connection

namespace Scene

variable {s t u : Scene}

/-! ### Until a connect succeeds -/

/-- Since a scene without a socket, nothing was sent, and the writes that waited there still wait in
front, unless nobody is left who could send them. -/
structure Standstill (t u : Scene) : Prop where
  dispatched_eq : u.dispatched = t.dispatched
  isConnected_eq : u.connection.status.isConnected = false
  queue : t.connection.queue <+: u.connection.queue ∨
    u.connection.status = .stopped ∨ u.connection.IsLost

/-- What others do leaves the writes that wait in front, unless they are handed back or given up. -/
theorem prefix_step (s : Scene) {move : Move} (hturn : ∀ now stimulus, move ≠ .turn now stimulus)
    (htake : move ≠ .take) :
    s.connection.queue <+: (s.step move).connection.queue ∨ (s.step move).connection.IsLost := by
  have hpost (command : Command) :
      s.connection.queue <+: (s.connection.post command).next.queue := by
    unfold Connection.post
    split <;> exact List.prefix_refl _
  have hpush (s : Scene) (w : PendingWrite) :
      s.connection.queue <+: (s.push w).connection.queue := by
    unfold push
    cases hc : s.connection.push? w with
    | some connection =>
        cases Connection.eq_of_push? hc
        exact List.prefix_append _ _
    | none => exact List.prefix_refl _
  by_cases ha : s.Allows move
  · cases move with
    | turn now stimulus => exact absurd rfl (hturn now stimulus)
    | take => exact absurd rfl htake
    | push w =>
        rw [step_push ha]
        exact .inl (hpush s w)
    | pushAgain w expects =>
        rw [step_pushAgain ha]
        exact .inl (hpush { s with handed := s.handed.erase w } _)
    | wake =>
        rw [step_wake ha]
        exact .inl (hpost _)
    | connect =>
        rw [step_connect ha]
        exact .inl (hpost _)
    | shutdown =>
        rw [step_shutdown ha]
        exact .inl (hpost _)
    | close waiter =>
        rw [step_close ha, after, Connection.close]
        split <;> exact .inl (List.prefix_refl _)
    | letGo =>
        rw [step_letGo ha, after]
        obtain ⟨hp, heq⟩ | ⟨-, asked, -, heq⟩ := s.connection.letGo_cases <;> rw [heq]
        · exact .inr (by simp [Connection.abandonQueue, hp])
        · exact .inl (List.prefix_refl _)
    | discard w =>
        rw [step_discard ha]
        exact .inl (List.prefix_refl _)
    | recode codec => exact .inl (List.prefix_refl _)
  · rw [step_of_not_allows ha]
    exact .inl (List.prefix_refl _)

/-- A turn that takes no socket sends nothing. -/
theorem Standstill.turn (h : Standstill t u) (hi : u.connection.Intact) {now : Instant}
    {stimulus : Stimulus} (ha : u.Allows (.turn now stimulus))
    (hk : (u.step (.turn now stimulus)).connection.counters.connects =
      u.connection.counters.connects) : Standstill t (u.step (.turn now stimulus)) := by
  have hended := u.ended_step hi (.turn now stimulus)
  rw [step_turn ha] at hk hended ⊢
  have hsocketless : (u.turn now stimulus).connection.status.isConnected = false := by
    cases hi.joining now stimulus with
    | stays _ hs =>
        rw [h.isConnected_eq] at hs
        exact Bool.eq_false_iff.2 fun hconnected => nomatch hs hconnected
    | joins hk' =>
        rw [connection_turn, hk'] at hk
        omega
  have hbegun : u.connection.begun (u.connection.turn now stimulus).next = [] :=
    Connection.begun_of_inFlight
      (.inr ((hi.turn now stimulus).inFlight_of_isConnected hsocketless))
  refine ⟨(dispatched_turn_of_nil hbegun).trans h.dispatched_eq, hsocketless, ?_⟩
  cases hi.leaving now stimulus with
  | begins w hb =>
      rw [hbegun] at hb
      cases hb
  | ends hb hq hend => exact .inr hend
  | stays hb hq =>
      refine h.queue.imp (fun hqueue => ?_) hended
      rw [connection_turn, hq]
      exact hqueue

/-- What others do keeps the standstill, unless they take back what waits. -/
theorem Standstill.aside (h : Standstill t u) (hi : u.connection.Intact) {move : Move}
    (hturn : ∀ now stimulus, move ≠ .turn now stimulus) (htake : move ≠ .take) :
    Standstill t (u.step move) := by
  have hapart := apart_step u hturn
  refine ⟨hapart.dispatched_eq.trans h.dispatched_eq, by rw [hapart.status_eq, h.isConnected_eq],
    ?_⟩
  rcases h.queue with hqueue | hend
  · rcases prefix_step u hturn htake with hqueue' | hlost
    · exact .inl (hqueue.trans hqueue')
    · exact .inr (.inr hlost)
  · exact .inr (u.ended_step hi move hend)

/-- The connects that have succeeded are never fewer. -/
theorem connects_le_step (hi : s.connection.Intact) (move : Move) :
    s.connection.counters.connects ≤ (s.step move).connection.counters.connects := by
  rcases s.turned_or_apart move with ⟨now, stimulus, -, hstep⟩ | hapart
  · rw [hstep, connection_turn]
    cases hi.joining now stimulus with
    | stays hk => exact Nat.le_of_eq hk.symm
    | joins hk => exact hk ▸ Nat.le_succ _
  · obtain ⟨count, hcounters⟩ := hapart.counters_eq
    exact Nat.le_of_eq (by rw [hcounters]; rfl)

/-- **Until a connect succeeds, nothing is sent**, and what waits goes on waiting in front, unless
it is taken back. -/
theorem standstill_run (hr : t.Reachable) (hs : t.connection.status.isConnected = false)
    (moves : List Move) (htake : .take ∉ moves)
    (hk : (t.run moves).connection.counters.connects = t.connection.counters.connects) :
    Standstill t (t.run moves) := by
  suffices hall : t.connection.counters.connects ≤
        (t.run moves).connection.counters.connects ∧
      (.take ∉ moves → (t.run moves).connection.counters.connects =
        t.connection.counters.connects → Standstill t (t.run moves)) from hall.2 htake hk
  clear htake hk
  refine run_induction (P := fun moves u => t.connection.counters.connects ≤
      u.connection.counters.connects ∧ (.take ∉ moves → u.connection.counters.connects =
        t.connection.counters.connects → Standstill t u)) hr
    ⟨Nat.le_refl _, fun _ _ => ⟨rfl, hs, .inl (List.prefix_refl _)⟩⟩
    (fun moves move _ ih => ⟨ih.1, fun htake => ih.2 fun hmem => htake (by simp [hmem])⟩)
    (fun moves move hr' ha ih => ?_) moves
  have hle := connects_le_step hr'.intact move
  refine ⟨Nat.le_trans ih.1 hle, fun htake hk => ?_⟩
  rw [List.mem_append, List.mem_singleton, not_or] at htake
  have hstill := ih.2 htake.1 (by have := ih.1; omega)
  rcases (t.run moves).turn_or_apart move with ⟨now, stimulus, rfl⟩ | ⟨hturn, -⟩
  · exact hstill.turn hr'.intact ha (by have := ih.1; omega)
  · exact hstill.aside hr'.intact hturn (Ne.symm htake.2)

/-- **The connect that succeeds sends the first write** of those that waited: it is in flight from
then on, and all of its payload is to be handed to the fresh socket. -/
theorem Standstill.connected (h : Standstill t u) (hr : u.Reachable) {w : PendingWrite}
    {rest : List PendingWrite} (hq : t.connection.queue = w :: rest) {link : Link}
    {took : Duration} (hp : u.connection.position = .signalled (.connected link took))
    (now : Instant) (stimulus : Stimulus) :
    (u.turn now stimulus).dispatched = t.dispatched ++ [w.ticket] ∧
      (u.turn now stimulus).connection.inFlight = some (w.dispatch now) ∧
      rest <+: (u.turn now stimulus).connection.queue ∧
      (u.turn now stimulus).connection.load? = some (some w.ticket, w.payload) ∧
      (u.turn now stimulus).connection.live? = some link.socket := by
  have hsound := hr.intact.sound (by rw [hp]; nofun)
  have hs : u.connection.status = .connecting := hsound.fits_at hp
  -- There is still somebody who can send what waits.
  have hqueue : t.connection.queue <+: u.connection.queue := by
    refine h.queue.resolve_right ?_
    rintro (hstop | hlost)
    · rw [hs] at hstop
      cases hstop
    · exact hsound.position_ne hlost.1
  obtain ⟨late, hqueue⟩ := hqueue
  rw [hq, List.cons_append] at hqueue
  obtain ⟨hb, hflight, hrest, hload, hlive⟩ := hsound.turn_connected hp hqueue.symm now stimulus
  refine ⟨?_, hflight, ⟨late, hrest.symm⟩, hload, hlive⟩
  rw [← h.dispatched_eq, ← hb]
  rfl

/-! ### What a failure leaves behind -/

/-- **A failure is isolated.**  Let a task be about to perform `handleFail`, whatever went wrong,
with the error that it has to go by.  The queue keeps its writes in their order, and none of them is
resolved.  The write in flight, if there is one, is resolved as failed with that error and the
payload that was submitted, and no other is resolved.  The failure is recorded with the error and
the present instant; the status is `connectFailed`, and there is no socket, no armed deadline, no
outstanding probe and no byte in the block.  As long as the owner does not take the writes back,
nothing is sent until a connect succeeds, and the first one that does begins with the first write of
that queue: all of its payload is to be handed to the fresh socket. -/
theorem failure_isolated (h : s.Reachable) (ha : s.connection.action? = some .handleFail)
    {now : Instant} {stimulus : Stimulus} (hallows : s.Allows (.turn now stimulus)) :
    let t := s.step (.turn now stimulus)
    ∃ error, s.connection.position.error? = some error ∧
      (t.connection.queue = s.connection.queue ∧
        ∀ w ∈ s.connection.queue, w.ticket ∉ t.resolved) ∧
      (t.outcomes = s.outcomes ++ s.connection.inFlight.toList.map fun w =>
          (w.ticket, .undelivered ⟨w.payload, error⟩)) ∧
      (∀ w ∈ s.connection.inFlight,
        ∃ v ∈ s.submitted, v.ticket = w.ticket ∧ v.payload = w.payload) ∧
      t.connection.failure = some ⟨error, now⟩ ∧
      (t.connection.status = .connectFailed ∧ t.connection.isBusy = false ∧
        t.connection.inFlight = none ∧ t.connection.socket = none ∧
        t.connection.deadline.isArmed = false ∧ t.connection.keepAlive.isProbing = false ∧
        t.connection.block.held = []) ∧
      ∀ moves, .take ∉ moves → let u := t.run moves
        u.connection.counters.connects = t.connection.counters.connects →
          u.dispatched = t.dispatched ∧
          ∀ w rest link took, s.connection.queue = w :: rest →
            u.connection.position = .signalled (.connected link took) →
            ∀ now' stimulus', u.Allows (.turn now' stimulus') →
              let v := u.step (.turn now' stimulus')
              v.dispatched = t.dispatched ++ [w.ticket] ∧
              v.connection.inFlight = some (w.dispatch now') ∧ rest <+: v.connection.queue ∧
              v.connection.load? = some (some w.ticket, w.payload) ∧
              v.connection.live? = some link.socket := by
  intro t
  have hr : t.Reachable := h.step _
  obtain ⟨error, herror, hf⟩ := Connection.turn_handleFail h.intact ha now stimulus
  have ht : t = s.turn now stimulus := step_turn hallows
  have hqueue : t.connection.queue = s.connection.queue := by
    rw [ht, connection_turn, hf.queue_eq]
  refine ⟨error, herror, ⟨hqueue, fun w hw => ?_⟩, ?_, fun w hw => ?_, ?_, ?_, ?_⟩
  · -- What waits has one place, and is not resolved.
    have hcount := hr.accounted.count_le w.ticket
    have hwaits : 0 < (t.connection.held.map (·.ticket)).count w.ticket := by
      rw [List.count_pos_iff]
      refine List.mem_map_of_mem (?_ : w ∈ t.connection.held)
      simp [Connection.held, hqueue, hw]
    exact List.count_eq_zero.1 (by omega)
  · rw [ht, turn, ← hf.outcomes_eq]
    exact outcomes_after s _
  · refine h.accounted.kept w ?_
    simp [Connection.held, Option.mem_def.1 hw]
  · rw [ht, connection_turn, hf.failure_eq]
  · rw [ht, connection_turn]
    exact ⟨hf.status_eq, hf.isBusy_eq, hf.inFlight_eq, hf.socket_eq, hf.isArmed_eq,
      hf.isProbing_eq, hf.held_eq⟩
  · intro moves htake u hk
    have hstill : Standstill t u := standstill_run hr
      (by rw [ht, connection_turn, hf.status_eq]; rfl) moves htake hk
    refine ⟨hstill.dispatched_eq, fun w rest link took hq hp now' stimulus' hallows' => ?_⟩
    rw [step_turn hallows']
    exact hstill.connected (hr.run moves) (hqueue.trans hq) hp now' stimulus'

/-- A run in which the socket takes no more of a payload, while another write waits. -/
def breakingRun : List Move :=
  sampleRun ++ [.push { sampleWrite with ticket := 8 }, .turn ⟨3⟩ (.writeFailed .brokenPipe)]

/-- The owner connects again, and the connect succeeds. -/
def recoveringRun : List Move :=
  [.connect, .turn ⟨4⟩ .tick, .turn ⟨4⟩ .command, .turn ⟨4⟩ .tick, .turn ⟨4⟩ .tick,
    .turn ⟨5⟩ (.dialled ⟨1, none, []⟩)]

/-- The write in flight is failed, and the one that waits is sent over the next socket. -/
theorem failure_isolated_breakingRun :
    let s := (start ⟨0⟩ ⟨"node", 9001⟩ {} .line none).run breakingRun
    let t := s.step (.turn ⟨3⟩ .tick)
    let v := (t.run recoveringRun).step (.turn ⟨5⟩ .tick)
    s.connection.action? = some .handleFail ∧
      t.outcomes = [(7, .undelivered ⟨[65], .write (.broken .brokenPipe)⟩)] ∧
      t.connection.failure = some ⟨.write (.broken .brokenPipe), ⟨3⟩⟩ ∧ t.queued = [8] ∧
      v.dispatched = [7, 8] ∧ v.connection.load? = some (some 8, [65]) ∧
      v.connection.live? = some 1 := by
  intro s t v
  have hr : s.Reachable := (Reachable.start _ _ _ _ _).run _
  have haction : s.connection.action? = some .handleFail := by decide
  have hallows : s.Allows (.turn ⟨3⟩ .tick) := by decide
  obtain ⟨error, herror, ⟨hqueue, -⟩, houtcomes, -, hfailure, -, hnext⟩ :=
    failure_isolated hr haction hallows
  have hwrite : s.connection.position.error? = some (.write (.broken .brokenPipe)) := by decide
  obtain rfl : error = .write (.broken .brokenPipe) := by
    rw [hwrite] at herror
    exact (Option.some.inj herror).symm
  obtain ⟨-, hsent⟩ := hnext recoveringRun (by simp [recoveringRun]) (by decide)
  obtain ⟨hdispatched, -, -, hload, hlive⟩ :=
    hsent { sampleWrite with ticket := 8 } [] ⟨1, none, []⟩ ⟨1⟩ (by decide) (by decide) ⟨5⟩ .tick
      (by decide)
  refine ⟨haction, ?_, hfailure, ?_, ?_, hload, hlive⟩
  · rw [houtcomes]
    decide
  · rw [queued, hqueue]
    decide
  · rw [hdispatched]
    decide

end Scene

end Uplink
