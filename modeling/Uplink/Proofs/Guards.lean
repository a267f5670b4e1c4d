/-
What a task never finds missing.

A task looks before it acts, more often than it needs to: for a payload before it writes one, for a
socket before it uses one, for an entry of the table before it takes a step, for a write in the
queue before it takes one out.  What it would do if it found nothing shows in what it tells, as an
error that nothing outside has caused or as an event that the machine rejects.  It never comes to
that.

* `Uplink.ConnectionError.isMadeUp` — an error that stands for something missing;
* `Uplink.Effect.isAlarm` — an effect that shows that something was missing;
* `Uplink.Connection.Unalarmed` — a turn shows none, and is not about to;
* `Uplink.Connection.Intact.unalarmed` — **no turn does**;
* `Uplink.Scene.Quiet` — nothing was missing so far;
* `Uplink.Scene.nothing_missing` — **whatever the task looks for is there**.
-/

import Uplink.Proofs.Failing

set_option relaxedAutoImplicit false
set_option autoImplicit false

namespace Uplink

/-! ### Signs that something is missing -/

/-- The error stands for something that is missing, and for nothing that has happened. -/
def ConnectionError.isMadeUp : ConnectionError → Bool
  | write .nothingInFlight | write .noSocket | protocol .noSocket | protocol .unexplained => true
  | _ => false

/-- The notice shows that something was missing: the machine had no entry for an event, there was no
probe to be sent, or an error stands for it. -/
def Notice.isAlarm : Notice → Bool
  | rejected _ _ => true
  | probeFailed _ error => error.isMadeUp || error.kind = .idleTimeout
  | probeUnanswered _ error | failed _ error => error.isMadeUp
  | _ => false

/-- The effect shows that something was missing. -/
def Effect.isAlarm : Effect → Bool
  | noticed notice => notice.isAlarm
  | resolved _ (.undelivered returned) => returned.error.isMadeUp
  | _ => false

/-- The effects of a step that show that something was missing. -/
def Progress.alarms (p : Progress) : List Effect := p.effects.filter Effect.isAlarm

@[simp] theorem Progress.alarms_andThen (p : Progress) (f : Connection → Progress) :
    (p.andThen f).alarms = p.alarms ++ (f p.next).alarms := by
  simp [alarms]

@[simp] theorem Progress.alarms_nothing (c : Connection) : alarms ⟨c, []⟩ = [] := rfl

theorem filter_isAlarm_map {α : Type} {f : α → Effect} (h : ∀ a, (f a).isAlarm = false)
    (list : List α) : (list.map f).filter Effect.isAlarm = [] :=
  List.filter_eq_nil_iff.2 fun e he => by
    obtain ⟨a, -, rfl⟩ := List.mem_map.1 he
    rw [h a]
    nofun

/-- A full block is told as such. -/
theorem ReceiveBlock.eq_of_reserve_error {b : ReceiveBlock} {fault : ProtocolFault}
    (h : b.reserve = .error fault) : fault = .blockFull b.ceiling := by
  obtain ⟨-, heq⟩ | ⟨-, -, heq⟩ | ⟨-, -, heq⟩ := b.reserve_cases <;> cases h.symm.trans heq
  rfl

namespace Connection

variable {c d : Connection} {now : Instant} {stimulus : Stimulus}

/-! ### Pieces of work -/

section

variable (c)

@[simp] theorem alarms_moveTo (target : Status) (event : Event) :
    (c.moveTo target event).alarms = [] := by
  unfold moveTo
  split <;> rfl

@[simp] theorem alarms_hangUp : c.hangUp.alarms = [] :=
  filter_isAlarm_map (fun _ => rfl) _

@[simp] theorem alarms_startConnect : (c.startConnect now).alarms = [] := by
  rw [startConnect, Progress.alarms_andThen, alarms_hangUp]
  rfl

@[simp] theorem alarms_configure (link : Link) : (c.configure link).alarms = [] := by
  simp only [configure, Progress.alarms, List.filter_cons, Effect.isAlarm]
  cases (c.config.socket.apply fun name => link.refusals.lookup name).2 <;> rfl

theorem alarms_sayIf (condition : Bool) {notice : ClientInfo → Notice}
    (h : ∀ label, (notice label).isAlarm = false) : (c.sayIf condition notice).alarms = [] := by
  cases condition <;> simp [sayIf, Progress.alarms, Effect.isAlarm, h]

@[simp] theorem alarms_establish (link : Link) (took : Duration) :
    (c.establish now link took).alarms = [] := by
  rw [establish, Progress.alarms_andThen, alarms_configure]
  exact alarms_sayIf _ _ fun _ => rfl

@[simp] theorem alarms_resolve (response? : Option Nat) :
    (c.resolve now response?).alarms = [] := by
  unfold resolve
  cases c.inFlight <;> rfl

@[simp] theorem alarms_dropInFlight : c.dropInFlight.alarms = [] :=
  filter_isAlarm_map (fun _ => rfl) _

/-- A failure shows what its error stands for. -/
theorem alarms_handleFail {error : ConnectionError} (h : error.isMadeUp = false) :
    (c.handleFail now (some error)).alarms = [] := by
  have hsay (d : Connection) : (d.say (.failed · error)).alarms = [] := by
    simp [say, Progress.alarms, Effect.isAlarm, Notice.isAlarm, h]
  have hfail (d : Connection) : (d.failInFlight error).alarms = [] := by
    unfold failInFlight
    cases d.inFlight <;>
      simp [Progress.alarms, Effect.isAlarm, PendingWrite.undelivered, h]
  simp [handleFail, hsay, hfail]

theorem alarms_cancelled (writes : List PendingWrite) : Progress.alarms ⟨c, writes.map fun w =>
    .resolved w.ticket (w.undelivered .cancelled)⟩ = [] :=
  filter_isAlarm_map (fun _ => rfl) _

@[simp] theorem alarms_doClose : c.doClose.alarms = [] := by
  rw [doClose, Progress.alarms_andThen, Progress.alarms_andThen, alarms_hangUp, alarms_cancelled]
  rfl

@[simp] theorem alarms_transmit (unsent : Bytes) (count : Nat) :
    (c.transmit unsent count).alarms = [] :=
  filter_isAlarm_map (fun _ => rfl) _

@[simp] theorem alarms_finish : c.finish.alarms = [] :=
  filter_isAlarm_map (fun _ => rfl) _

@[simp] theorem alarms_abandonQueue : c.abandonQueue.alarms = [] :=
  alarms_cancelled _ _

@[simp] theorem alarms_crash : c.crash.alarms = [] := by
  have hfirst (d : Connection) : Progress.alarms ⟨d,
      (c.waiters ++ c.unreadWaiters).map Effect.released ++
        c.inFlight.toList.map (fun w => Effect.resolved w.ticket (w.undelivered .cancelled)) ++
        c.socket.toList.map Effect.hungUp⟩ = [] := by
    simp only [Progress.alarms, List.filter_append, List.append_eq_nil_iff]
    exact ⟨⟨filter_isAlarm_map (fun _ => rfl) _, filter_isAlarm_map (fun _ => rfl) _⟩,
      filter_isAlarm_map (fun _ => rfl) _⟩
  rw [crash, Progress.alarms_andThen, hfirst]
  split
  · rfl
  · exact alarms_abandonQueue _

end

/-- A turn that fires a signal shows what the error of the signal stands for. -/
theorem Firing.alarms_eq {signal : Signal} {p : Progress} (hf : c.Firing now signal p)
    (h : ∀ error ∈ signal.error?, error.isMadeUp = false) : p.alarms = [] := by
  cases hf with
  | fails _ error event herror => simp [alarms_handleFail _ (h error herror)]
  | awaits | delivers | drops => simp [absorb]
  | _ => simp

/-! ### Turns that fire no signal -/

/-- A step shows nothing missing, and is not about to. -/
structure Unalarmed (p : Progress) : Prop where
  alarms_eq : p.alarms = []
  error : ∀ error ∈ p.next.position.error?, error.isMadeUp = false

theorem Unalarmed.after {p : Progress} {f : Connection → Progress} (hp : p.alarms = [])
    (hf : Unalarmed (f p.next)) : Unalarmed (p.andThen f) where
  alarms_eq := by rw [Progress.alarms_andThen, hp, hf.alarms_eq, List.append_nil]
  error := hf.error

theorem unalarmed_park (phase : Phase) : Unalarmed (c.park phase) := ⟨rfl, nofun⟩

theorem unalarmed_signal {signal : Signal}
    (h : ∀ error ∈ signal.error?, error.isMadeUp = false) : Unalarmed (c.signal signal) := ⟨rfl, h⟩

/-- A phase may end with an error that something outside has caused. -/
theorem unalarmed_caused {signal : Signal} {error : ConnectionError}
    (hs : signal.error? = some error) (h : error.isMadeUp = false) : Unalarmed (c.signal signal) :=
  unalarmed_signal fun _ herror => by
    cases hs.symm.trans herror
    exact h

/-- A task that is about to be stopped handles no error any more. -/
theorem unalarmed_proceed {signal : Signal}
    (h : ∀ error ∈ signal.error?, error.isMadeUp = false) : Unalarmed (c.proceed signal) := by
  unfold proceed
  split
  next hpos => exact ⟨rfl, by simp [hpos, Position.error?]⟩
  next => exact unalarmed_signal h

theorem unalarmed_signalIdle : Unalarmed (c.signalIdle now) := unalarmed_caused rfl rfl

theorem unalarmed_crash : Unalarmed c.crash where
  alarms_eq := alarms_crash c
  error := by
    rw [next_crash]
    nofun

theorem unalarmed_start : Unalarmed (c.start now) := by
  unfold start
  split
  · exact ⟨rfl, nofun⟩
  · exact unalarmed_crash

theorem unalarmed_parkFree : Unalarmed c.parkFree := by
  unfold parkFree
  split <;> exact unalarmed_park _

/-- Whatever the phase needs is there when it is entered. -/
theorem unalarmed_enter (h : c.Sound) : Unalarmed (c.enter now) := by
  have hsocket (hs : c.status.isConnected = true) : c.socket ≠ none :=
    Option.isSome_iff_ne_none.1 (h.socket_iff.2 hs)
  unfold enter
  split
  · exact ⟨alarms_finish c, nofun⟩
  · split
    next => exact unalarmed_park _
    next => exact unalarmed_park _
    next => exact ⟨rfl, nofun⟩
    next =>
      unfold enterFree
      split
      · exact unalarmed_signal nofun
      · split
        · exact unalarmed_signalIdle
        · exact unalarmed_parkFree
    next hs =>
      have hflight : c.inFlight ≠ none :=
        Option.isSome_iff_ne_none.1 (h.inFlight_iff.2 (by rw [hs]; rfl))
      unfold enterWriting
      split
      next hnone => exact absurd hnone hflight
      next hnone => exact absurd hnone (hsocket (by rw [hs]; rfl))
      next => exact unalarmed_park _
    next hs =>
      rw [enterWaiting, if_neg (hsocket (by rw [hs]; rfl))]
      exact unalarmed_park _
    next => exact ⟨alarms_finish c, nofun⟩

/-- A response that is no frame is told as such. -/
theorem isMadeUp_verdict (d : Connection) :
    ∀ error ∈ d.verdict.error?, error.isMadeUp = false := by
  unfold verdict
  split
  · split
    · nofun
    · rintro _ ⟨⟩
      rfl
  · nofun
  · rintro _ ⟨⟩
    rfl

section

variable (he : c.position.error? = none)

include he

/-- The task stays where it is. -/
theorem unalarmed_stay (hd : d.position = c.position) : Unalarmed ⟨d, []⟩ :=
  ⟨rfl, by rw [hd, he]; nofun⟩

theorem unalarmed_observeIdleCommand : Unalarmed c.observeIdleCommand := by
  unfold observeIdleCommand
  split
  next => exact unalarmed_signal nofun
  next d h =>
    obtain ⟨rfl, -⟩ := readCommand_eq_some h
    exact unalarmed_stay he rfl
  next => exact unalarmed_signal nofun
  next => exact unalarmed_stay he rfl

theorem unalarmed_observeBusyCommand : Unalarmed c.observeBusyCommand := by
  unfold observeBusyCommand
  split
  next => exact unalarmed_signal nofun
  next d _ h =>
    obtain ⟨rfl, -⟩ := readCommand_eq_some h
    exact unalarmed_stay he rfl
  next => exact unalarmed_stay he rfl

theorem unalarmed_observeFreeCommand : Unalarmed c.observeFreeCommand := by
  unfold observeFreeCommand
  split
  next => exact unalarmed_signal nofun
  next d h =>
    obtain ⟨rfl, -⟩ := readCommand_eq_some h
    split
    · exact unalarmed_signal nofun
    · exact unalarmed_stay he rfl
  next => exact unalarmed_signal nofun
  next => exact unalarmed_stay he rfl

theorem unalarmed_observeDeadline {ending : Duration → Signal}
    (h : ∀ (d : Connection) (span : Duration), Unalarmed (d.signal (ending span))) :
    Unalarmed (c.observeDeadline now ending) := by
  unfold observeDeadline
  split
  · exact h _ _
  · exact unalarmed_stay he rfl

theorem unalarmed_observeBusyTick : Unalarmed (c.observeBusyTick now) := by
  unfold observeBusyTick
  split
  · exact unalarmed_stay he rfl
  · split
    · exact unalarmed_crash
    · simp only
      split
      · exact unalarmed_caused rfl rfl
      · exact unalarmed_stay he rfl
      · exact unalarmed_crash

theorem unalarmed_observeConnecting {since : Instant} :
    Unalarmed (c.observeConnecting now since stimulus) := by
  unfold observeConnecting
  split
  · exact unalarmed_signal nofun
  · exact unalarmed_caused rfl rfl
  · exact unalarmed_observeDeadline he fun _ _ => unalarmed_caused rfl rfl
  · exact unalarmed_observeBusyCommand he
  · exact unalarmed_stay he rfl

theorem unalarmed_observeResponse {bytes : Bytes} : Unalarmed (c.observeResponse now bytes) := by
  unfold observeResponse
  simp only
  split
  · exact unalarmed_stay he rfl
  · exact unalarmed_proceed (isMadeUp_verdict _)

theorem unalarmed_observeOverfull {ending : ProtocolFault → Progress}
    (h : ∀ ceiling, Unalarmed (ending (.blockFull ceiling))) :
    Unalarmed (c.observeOverfull ending) := by
  unfold observeOverfull
  split
  · exact unalarmed_stay he rfl
  next fault hfault =>
    rw [ReceiveBlock.eq_of_reserve_error hfault]
    exact h _

theorem unalarmed_observeWriting {unsent : Bytes} :
    Unalarmed (c.observeWriting now unsent stimulus) := by
  unfold observeWriting
  split
  next =>
    refine .after (alarms_transmit c _ _) ?_
    simp only
    split
    · exact unalarmed_signal nofun
    · exact unalarmed_park _
  next => exact unalarmed_caused rfl rfl
  next => exact unalarmed_observeDeadline he fun _ _ => unalarmed_caused rfl rfl
  next => exact unalarmed_observeBusyTick he
  next => exact unalarmed_observeBusyCommand he
  next => exact unalarmed_stay he rfl

theorem unalarmed_observeWaiting : Unalarmed (c.observeWaiting now stimulus) := by
  unfold observeWaiting
  split
  next => exact unalarmed_observeResponse he
  next => exact unalarmed_caused rfl rfl
  next => exact unalarmed_caused rfl rfl
  next => exact unalarmed_observeOverfull he fun _ => unalarmed_caused rfl rfl
  next => exact unalarmed_observeDeadline he fun _ _ => unalarmed_caused rfl rfl
  next => exact unalarmed_observeBusyTick he
  next => exact unalarmed_observeBusyCommand he
  next => exact unalarmed_stay he rfl

end

/-! ### Probes -/

theorem unalarmed_completeProbe (probe : Bytes) (tick : Instant) :
    Unalarmed (c.completeProbe probe tick) := by
  unfold completeProbe
  exact .after rfl unalarmed_parkFree

/-- A probe that cannot be sent is told with what has happened. -/
theorem unalarmed_failProbe {error : ConnectionError} (h : error.isMadeUp = false)
    (hkind : error.kind ≠ .idleTimeout) : Unalarmed (c.failProbe now error) := by
  unfold failProbe
  refine .after ?_ unalarmed_signalIdle
  simp [say, Progress.alarms, Effect.isAlarm, Notice.isAlarm, h, hkind]

/-- There is a probe to be sent, and a socket that takes it. -/
theorem unalarmed_beginProbe {tick : Instant} (hprobe : c.codec.probe.isSome = true)
    (hsocket : c.socket.isSome = true) : Unalarmed (c.beginProbe now tick) := by
  unfold beginProbe
  split
  next hnone =>
    rw [hnone] at hprobe
    cases hprobe
  next hnone =>
    rw [hnone] at hsocket
    cases hsocket
  next =>
    split
    · exact unalarmed_completeProbe _ _
    · exact unalarmed_park _

theorem unalarmed_observeFreeTick (he : c.position.error? = none)
    (hsocket : c.socket.isSome = true) : Unalarmed (c.observeFreeTick now) := by
  unfold observeFreeTick
  split
  · exact unalarmed_stay he rfl
  · split
    · exact unalarmed_crash
    · simp only
      split
      next => exact unalarmed_stay he rfl
      next hcheck => exact unalarmed_beginProbe (check?_free_eq_probe hcheck).2 hsocket
      next => exact unalarmed_caused rfl rfl
      next => exact unalarmed_crash

theorem unalarmed_observeAnswer {bytes : Bytes} (he : c.position.error? = none) :
    Unalarmed (c.observeAnswer now bytes) := by
  unfold observeAnswer
  simp only
  split
  · exact unalarmed_stay he rfl
  · split
    · exact unalarmed_parkFree
    · split
      · exact .after rfl (unalarmed_proceed nofun)
      · exact unalarmed_signalIdle
    · exact unalarmed_signalIdle

theorem unalarmed_observeNoAnswer {fault : ProtocolFault}
    (h : (ConnectionError.protocol fault).isMadeUp = false) :
    Unalarmed (c.observeNoAnswer now fault) := by
  unfold observeNoAnswer
  refine .after ?_ unalarmed_signalIdle
  simp [say, Progress.alarms, Effect.isAlarm, Notice.isAlarm, h]

theorem unalarmed_observeFree (he : c.position.error? = none) (hsocket : c.socket.isSome = true) :
    Unalarmed (c.observeFree now stimulus) := by
  unfold observeFree
  split
  next => exact unalarmed_observeFreeCommand he
  next => exact unalarmed_observeFreeTick he hsocket
  next =>
    split
    · exact unalarmed_observeAnswer he
    · exact unalarmed_stay he rfl
  next =>
    split
    · exact unalarmed_observeNoAnswer rfl
    · exact unalarmed_stay he rfl
  next =>
    split
    · exact unalarmed_observeNoAnswer rfl
    · exact unalarmed_stay he rfl
  next =>
    split
    · exact unalarmed_observeOverfull he fun _ => unalarmed_observeNoAnswer rfl
    · exact unalarmed_stay he rfl
  next => exact unalarmed_stay he rfl

theorem unalarmed_observeProbing {probe unsent : Bytes} {tick expiry : Instant}
    (he : c.position.error? = none) :
    Unalarmed (c.observeProbing now probe unsent tick expiry stimulus) := by
  unfold observeProbing
  split
  next =>
    refine .after (alarms_transmit c _ _) ?_
    simp only
    split
    · exact unalarmed_completeProbe _ _
    · exact unalarmed_park _
  next => exact unalarmed_failProbe rfl nofun
  next =>
    split
    · exact unalarmed_stay he rfl
    · exact unalarmed_failProbe rfl nofun
  next => exact unalarmed_stay he rfl

/-! ### Every turn -/

theorem unalarmed_observe {phase : Phase} (h : c.Sound) (hp : c.position = .parked phase) :
    Unalarmed (c.observe now phase stimulus) := by
  have he : c.position.error? = none := by rw [hp]; rfl
  have hfits := h.fits_at hp
  unfold observe
  cases phase with
  | idle =>
      simp only
      split
      · exact unalarmed_observeIdleCommand he
      · exact unalarmed_stay he rfl
  | connecting since => exact unalarmed_observeConnecting he
  | free =>
      have hs : c.status = .free := hfits
      exact unalarmed_observeFree he (h.socket_iff.2 (by rw [hs]; rfl))
  | probing probe unsent tick expiry => exact unalarmed_observeProbing he
  | writing unsent => exact unalarmed_observeWriting he
  | waiting => exact unalarmed_observeWaiting he

/-- **No turn shows that something is missing**, or is about to, unless an error that stands for it
is about to be handled. -/
theorem Intact.unalarmed (h : c.Intact)
    (herror : ∀ error ∈ c.position.error?, error.isMadeUp = false) (now : Instant)
    (stimulus : Stimulus) : Unalarmed (c.turn now stimulus) := by
  rcases h with h | h
  · cases hp : c.position with
    | signalled signal =>
        have hf := Intact.firing_turn (.inl h) hp now stimulus
        rw [hp] at herror
        refine ⟨hf.alarms_eq herror, ?_⟩
        rcases hf.position_cases with hpos | ⟨hpos, -⟩ <;> simp [hpos, Position.error?]
    | spawned =>
        rw [Connection.turn, hp]
        exact unalarmed_start
    | entering =>
        rw [Connection.turn, hp]
        exact unalarmed_enter h
    | parked phase =>
        rw [Connection.turn, hp]
        exact unalarmed_observe h hp
    | overflowed =>
        rw [Connection.turn, hp]
        exact unalarmed_crash
    | finished | crashed =>
        rw [Connection.turn, hp]
        exact ⟨rfl, by simp [hp, Position.error?]⟩
  · rw [h.turn_eq]
    exact ⟨rfl, herror⟩

/-! ### Failures that are recorded, and writes that are begun -/

@[simp] theorem failure_beginWrite (d : Connection) : (d.beginWrite now).failure = d.failure := by
  unfold beginWrite
  cases d.queue <;> rfl

@[simp] theorem failure_resolve (d : Connection) (response? : Option Nat) :
    (d.resolve now response?).next.failure = d.failure := by
  unfold resolve
  cases d.inFlight <;> rfl

/-- A turn records no failure but one that has happened. -/
theorem Intact.failure_turn (h : c.Intact) (now : Instant) (stimulus : Stimulus) :
    (c.turn now stimulus).next.failure = c.failure ∨
      ∃ error, c.position.error? = some error ∧
        (c.turn now stimulus).next.failure = some ⟨error, now⟩ := by
  obtain ⟨-, hp⟩ | ⟨signal, hpos, -, hf⟩ := turn_cases now stimulus h.fits
  · refine .inl ?_
    obtain hcontained | ⟨keepAlive, heq⟩ := hp.contained
    · rw [hcontained.next_eq]
    · rw [heq, next_crash]
  · cases herror : signal.error? with
    | some error =>
        exact .inr ⟨error, by rw [hpos]; exact herror, (hf.failing herror).failure_eq⟩
    | none =>
        refine .inl ?_
        generalize c.turn now stimulus = p at hf
        cases hf with
        | fails _ error event herror' =>
            rw [herror] at herror'
            cases herror'
        | _ =>
            simp [next_moveTo, attend, startConnect, establish, absorb, touch, doClose]

/-- Work that begins a write goes with an event that tells of one that waits. -/
theorem eq_of_transition_beginWrite {source : Status} {event : Event} {step : Step}
    (h : transition source event = .ok step) (ha : step.action = .beginWrite) :
    event = .connected true ∨ event = .dispatch := by
  cases event with
  | dispatch => exact .inr rfl
  | connected queued =>
      cases queued with
      | true => exact .inl rfl
      | false =>
          cases source <;> cases h
          cases ha
  | writeComplete expects => cases source <;> cases expects <;> cases h <;> cases ha
  | _ => cases source <;> cases h <;> cases ha

/-- The machine has an entry for the event of a signal that fits. -/
theorem exists_step_of_fits {signal : Signal} {event : Event} (hf : signal.Fits c)
    (he : c.eventOf? signal = some event) : ∃ step, transition c.status event = .ok step := by
  cases signal with
  | again => cases he
  | connect =>
      cases he
      rcases hf with hs | hs | hs <;> rw [hs] <;> exact ⟨_, rfl⟩
  | close waiter =>
      cases he
      have hs : c.status ≠ .stopped := hf
      cases hstatus : c.status with
      | stopped => exact absurd hstatus hs
      | _ => exact ⟨_, rfl⟩
  | connected link took =>
      cases he
      rw [show c.status = .connecting from hf]
      cases decide (c.queue ≠ []) <;> exact ⟨_, rfl⟩
  | dispatch =>
      simp only [eventOf?] at he
      split at he <;> cases he
      rw [hf.1]
      exact ⟨_, rfl⟩
  | written bytes =>
      cases he
      rw [show c.status = .writing from hf]
      cases c.expectsResponse <;> exact ⟨_, rfl⟩
  | incomplete | frame length =>
      cases he
      rw [show c.status = .waiting from hf]
      exact ⟨_, rfl⟩
  | connectFailed error | writeFailed error | responseFailed error =>
      cases he
      rw [hf.1]
      exact ⟨_, rfl⟩
  | idle span =>
      cases he
      rcases hf with hs | hs
      · rw [hs]
        exact ⟨_, rfl⟩
      · cases hstatus : c.status <;> rw [hstatus] at hs <;> first | exact ⟨_, rfl⟩ | cases hs

/-- A turn that begins a write takes the first one that waits. -/
theorem Intact.begins (h : c.Intact) {signal : Signal} {event : Event} {step : Step}
    (hp : c.position = .signalled signal) (he : c.eventOf? signal = some event)
    (ht : transition c.status event = .ok step) (ha : step.action = .beginWrite) (now : Instant)
    (stimulus : Stimulus) : ∃ w, c.queue = w :: (c.turn now stimulus).next.queue ∧
      (c.turn now stimulus).next.inFlight = some (w.dispatch now) := by
  have hf := h.firing_turn hp now stimulus
  have hbegins : c.queue ≠ [] ∧ c.Begins (c.turn now stimulus).next now := by
    have hevent := eq_of_transition_beginWrite ht ha
    cases signal with
    | connected link took =>
        cases he
        have hq : c.queue ≠ [] := by simpa using hevent
        exact ⟨hq, hf.begins_connected hq⟩
    | dispatch =>
        simp only [eventOf?] at he
        split at he
        · cases he
        next hq => exact ⟨hq, hf.begins_dispatch hq⟩
    | again => cases he
    | _ =>
        cases he
        simp at hevent
  obtain ⟨hq, -, hflight, hqueue⟩ := hbegins
  obtain ⟨w, rest, hq⟩ := List.exists_cons_of_ne_nil hq
  rw [hq] at hflight hqueue
  exact ⟨w, by rw [hq, hqueue]; rfl, hflight⟩

end Connection

namespace Scene

variable {s t : Scene}

/-! ### Nothing is ever missing -/

/-- Nothing has shown so far that something was missing. -/
structure Quiet (s : Scene) : Prop where
  effects : ∀ e ∈ s.effects, e.isAlarm = false
  failure : ∀ failure ∈ s.connection.failure, failure.error.isMadeUp = false
  error : ∀ error ∈ s.connection.position.error?, error.isMadeUp = false

/-- A step of the owner tells what happens to writes, and nothing of what is missing. -/
theorem Quiet.after {p : Progress} (h : s.Quiet) (hp : p.alarms = [])
    (hfailure : p.next.failure = s.connection.failure)
    (hposition : p.next.position = s.connection.position) : (s.after p).Quiet where
  effects e he := by
    rcases List.mem_append.1 he with he | he
    · exact h.effects e he
    · have hnone := List.filter_eq_nil_iff.1 hp e he
      simpa using hnone
  failure := by
    rw [Scene.after, hfailure]
    exact h.failure
  error := by
    rw [Scene.after, hposition]
    exact h.error

theorem quiet_start {now : Instant} {endpoint : Endpoint} {config : Config} {codec : FrameCodec}
    {name : Option String} : (start now endpoint config codec name).Quiet where
  effects := by simp [start]
  failure := by simp [start, Connection.spawn]
  error := by simp [start, Connection.spawn, Position.error?]

theorem quiet_turn (h : s.Quiet) (hi : s.connection.Intact) (now : Instant)
    (stimulus : Stimulus) : (s.turn now stimulus).Quiet := by
  have hturn := hi.unalarmed h.error now stimulus
  refine ⟨fun e he => ?_, ?_, hturn.error⟩
  · rcases List.mem_append.1 he with he | he
    · exact h.effects e he
    · simpa using List.filter_eq_nil_iff.1 hturn.alarms_eq e he
  · rw [connection_turn]
    rcases hi.failure_turn now stimulus with heq | ⟨error, herror, heq⟩
    · rw [heq]
      exact h.failure
    · rw [heq]
      intro failure hfailure
      cases hfailure
      exact h.error error herror

theorem quiet_post (h : s.Quiet) (command : Command) :
    (s.after (s.connection.post command)).Quiet := by
  unfold Connection.post
  split <;> exact h.after rfl rfl rfl

/-- Every move keeps it so. -/
theorem Moved.quiet (hm : s.Moved t) (h : s.Quiet) (hi : s.connection.Intact) : t.Quiet := by
  cases hm with
  | stays => exact h
  | turns now stimulus => exact quiet_turn h hi now stimulus
  | pushes w connection hc | pushesAgain w expects connection hw hc =>
      cases Connection.eq_of_push? hc
      exact ⟨h.effects, h.failure, h.error⟩
  | rejects w =>
      have hrejected := h.after (p := s.connection.reject w) rfl rfl rfl
      exact ⟨hrejected.effects, hrejected.failure, hrejected.error⟩
  | rejectsAgain w expects =>
      have hrejected := h.after (p := s.connection.reject { w with expects }) rfl rfl rfl
      exact ⟨hrejected.effects, hrejected.failure, hrejected.error⟩
  | wakes =>
      have hposted := quiet_post h .wake
      exact ⟨hposted.effects, hposted.failure, hposted.error⟩
  | takes | recodes => exact ⟨h.effects, h.failure, h.error⟩
  | discards w =>
      refine ⟨fun e he => ?_, h.failure, h.error⟩
      rcases List.mem_append.1 he with he | he
      · exact h.effects e he
      · cases List.mem_singleton.1 he
        rfl
  | posts command => exact quiet_post h command
  | closes waiter =>
      unfold Connection.close
      split <;> exact h.after rfl rfl rfl
  | letsGo =>
      obtain ⟨-, heq⟩ | ⟨-, asked, -, heq⟩ := s.connection.letGo_cases <;> rw [heq]
      · exact h.after (Connection.alarms_abandonQueue _) rfl rfl
      · exact h.after rfl rfl rfl

theorem Reachable.quiet (h : s.Reachable) : s.Quiet := by
  induction h with
  | start => exact quiet_start
  | step hr move ih => exact (moved _ move).quiet ih hr.intact

/-- **Whatever the task looks for is there**, in every scene and for every turn.  The machine has an
entry for the event of the signal that is about to be fired; if the work that goes with it begins a
write, there is one in the queue, and it is the first one that leaves it; if it fails the
connection, there is an error to go by.  Whenever a phase is entered or waited in, there is a
payload if one is to be written, and a socket unless there is none by the status.  And nothing that
the surroundings learn, in all that has happened or in the turn, shows that something was missing:
no event is rejected, no probe fails for want of one or of a socket, and no write, no failure and no
error that is about to be handled tells of a missing payload or socket, or of no reason at all. -/
theorem nothing_missing (h : s.Reachable) (now : Instant) (stimulus : Stimulus) :
    let c := s.connection
    let p := c.turn now stimulus
    (∀ signal, c.position = .signalled signal → ∀ event, c.eventOf? signal = some event →
      ∃ step, transition c.status event = .ok step ∧
        (step.action = .beginWrite →
          ∃ w, c.queue = w :: p.next.queue ∧ p.next.inFlight = some (w.dispatch now)) ∧
        (step.action = .handleFail → ∃ error, signal.error? = some error)) ∧
    (c.position = .entering ∨ (∃ phase, c.position = .parked phase) →
      (c.status = .writing → c.inFlight.isSome = true) ∧
      (c.status = .free ∨ c.status = .writing ∨ c.status = .waiting →
        c.socket.isSome = true)) ∧
    (∀ e ∈ s.effects ++ p.effects, e.isAlarm = false) ∧
    (∀ failure ∈ p.next.failure, failure.error.isMadeUp = false) ∧
    ∀ error ∈ p.next.position.error?, error.isMadeUp = false := by
  intro c p
  have hi : c.Intact := h.intact
  have hturn : (s.turn now stimulus).Quiet := quiet_turn h.quiet hi now stimulus
  refine ⟨fun signal hp event he => ?_, fun hp => ?_, hturn.effects, hturn.failure, hturn.error⟩
  · have hs : c.Sound := hi.sound (by simp [hp])
    have hfits := hs.fits
    rw [hp] at hfits
    obtain ⟨step, ht⟩ := Connection.exists_step_of_fits hfits he
    refine ⟨step, ht, fun ha => hi.begins hp he ht ha now stimulus, fun ha => ?_⟩
    obtain ⟨signal', error, hp', herror⟩ :=
      Connection.error?_of_handleFail (c := c)
        (by simp [Connection.action?, hp, he, ht, ha, Except.toOption])
    rw [hp] at hp'
    cases hp'
    exact ⟨error, herror⟩
  · have hs : c.Sound := hi.sound (by rcases hp with hp | ⟨phase, hp⟩ <;> simp [hp])
    refine ⟨fun hw => hs.inFlight_iff.2 (by rw [hw]; rfl), fun hc => hs.socket_iff.2 ?_⟩
    rcases hc with hc | hc | hc <;> rw [hc] <;> rfl

/-- The connect has succeeded while a write waits: the turn begins that write. -/
theorem nothing_missing_sampleRun :
    let s := (start ⟨0⟩ ⟨"node", 9001⟩ {} .line none).run (sampleRun.take 10)
    s.connection.position = .signalled (.connected ⟨0, none, []⟩ ⟨1⟩) ∧
      s.connection.eventOf? (.connected ⟨0, none, []⟩ ⟨1⟩) = some (.connected true) ∧
      ∃ w, s.connection.queue = w :: (s.connection.turn ⟨2⟩ .tick).next.queue ∧
        (s.connection.turn ⟨2⟩ .tick).next.inFlight = some (w.dispatch ⟨2⟩) := by
  intro s
  have hr : s.Reachable := (Reachable.start _ _ _ _ _).run _
  have hp : s.connection.position = .signalled (.connected ⟨0, none, []⟩ ⟨1⟩) := by decide
  have he : s.connection.eventOf? (.connected ⟨0, none, []⟩ ⟨1⟩) = some (.connected true) := by
    decide
  have hs : s.connection.status = .connecting := by decide
  obtain ⟨step, ht, hbegin, -⟩ := (nothing_missing hr ⟨2⟩ .tick).1 _ hp _ he
  rw [hs] at ht
  cases ht
  exact ⟨hp, he, hbegin rfl⟩

end Scene

end Uplink
