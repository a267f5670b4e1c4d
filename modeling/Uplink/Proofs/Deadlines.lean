/-
Deadlines that stand.

A deadline is armed when a connect is started and when a write is begun, and nothing that happens
afterwards moves it.  So the deadline of an attempt is known from the turn that started it, and that
of a request from the turn that began its write; there is no other.

* `Uplink.Deadline.expiry` — when a deadline falls due that is armed at an instant for a span;
* `Uplink.Deadline.ArmedAt` — it was armed there, if there is a span at all;
* `Uplink.Connection.Clocked` — what a turn does with the deadline, beside the status and the write
  in flight;
* `Uplink.Scene.BegunAt` — the turn that performed an action, and that it has lasted since;
* `Uplink.Scene.Timekept` — what the turns so far tell of the deadline.

Main result: `Uplink.Scene.deadlines_stand`.
-/

import Uplink.Proofs.Closing
import Uplink.Proofs.Idleness

set_option relaxedAutoImplicit false
set_option autoImplicit false

namespace Uplink

namespace Deadline

/-- When a deadline falls due that is armed for a span: when the span is over, or after thirty years
if the clock does not reach that far. -/
def expiry (start : Instant) (span : Duration) : Instant :=
  if start.ns + span.ns < Instant.limit then start.after span else start.after farAway

/-- The deadline as it is armed at an instant, for a span if there is one. -/
def ArmedAt (d : Deadline) (start : Instant) (span? : Option Duration) : Prop :=
  d.pending = span?.map fun span => (expiry start span, span)

theorem armedAt_arm (d : Deadline) (start : Instant) (span : Duration) :
    (d.arm start span).ArmedAt start (some span) := by
  have hexpiry : (start.after? span).getD (start.after farAway) = expiry start span := by
    unfold Instant.after? expiry
    split <;> rfl
  rw [ArmedAt, arm, hexpiry]
  rfl

theorem armedAt_cancel (d : Deadline) (start : Instant) : d.cancel.ArmedAt start none := rfl

theorem isArmed_eq_false_iff {d : Deadline} : d.isArmed = false ↔ d.pending = none := by
  rw [isArmed, Option.isSome_eq_false_iff, Option.isNone_iff_eq_none]

end Deadline

namespace Connection

variable {c : Connection} {now : Instant} {stimulus : Stimulus}

/-! ### What a turn does with the deadline -/

/-- What a turn does with the deadline. -/
inductive Clocked (c : Connection) (now : Instant) (d : Connection) : Prop
  /-- A connect is started. -/
  | dials (ha : c.action? = some .startConnect) (hs : c.status ≠ .connecting)
      (hs' : d.status = .connecting) (hw : d.inFlight = none)
      (hd : d.deadline.ArmedAt now (some c.config.connectTimeout))
  /-- A write is begun. -/
  | begins (w : PendingWrite) (ha : c.action? = some .beginWrite) (hn : c.inFlight = none)
      (hs : d.status ≠ .connecting) (hw : d.inFlight = some w) (hw' : w.dispatchedAt = some now)
      (hd : d.deadline.ArmedAt now c.config.requestTimeout)
  /-- What was begun goes on, and the deadline stands unless it was due. -/
  | keeps (hs : d.status = .connecting ↔ c.status = .connecting) (hw : d.inFlight = c.inFlight)
      (hp : c.position = .crashed → d.position = .crashed)
      (hd : d.deadline = c.deadline ∨ d.deadline.isArmed = false)
  /-- It is over. -/
  | ends (hs : d.status ≠ .connecting) (hw : d.inFlight = none)
      (hd : d.position = .crashed ∨ d.deadline.isArmed = false)

/-- The action of a signal that has an event and a step. -/
theorem action?_eq {signal : Signal} {event : Event} {step : Step}
    (hp : c.position = .signalled signal) (he : c.eventOf? signal = some event)
    (ht : transition c.status event = .ok step) : c.action? = some step.action := by
  simp only [action?, hp, he, Option.bind_some, ht, Except.toOption, Option.map_some]

/-- A turn that fires no signal leaves the deadline alone, or finds that it was due. -/
theorem Passing.deadline_eq {p : Progress} (hp : c.Passing now stimulus p) :
    p.next.deadline = c.deadline ∨ p.next.deadline = c.deadline.cancel := by
  cases hp with
  | crashes => exact .inl (by rw [next_crash])
  | fails _ _ _ _ _ _ hd => exact hd
  | settles =>
      obtain ⟨block, -, heq⟩ := c.parkFree_eq
      exact .inl (by rw [heq])
  | awaits =>
      obtain ⟨block, -, heq⟩ := c.makeRoom_eq
      exact .inl (by rw [heq]; rfl)
  | probesLast probe unsent count tick =>
      obtain ⟨block, -, heq⟩ := c.completeProbe_eq probe tick
      exact .inl (by rw [Progress.next_andThen, next_transmit, heq])
  | probesAtOnce keepAlive tick =>
      obtain ⟨block, -, heq⟩ := { c with keepAlive }.completeProbe_eq [] tick
      exact .inl (by rw [heq])
  | answersPart bytes =>
      obtain ⟨block, -, heq⟩ := (c.receive bytes).parkFree_eq
      exact .inl (by rw [heq]; rfl)
  | _ => exact .inl rfl

/-- A task that is stopped awaits no connect. -/
theorem Sound.not_connecting_of_overflows (h : c.Sound) (ho : c.Overflows now stimulus) :
    c.status ≠ .connecting := by
  have hpeer (ha : c.AwaitsPeer) : c.status ≠ .connecting := by
    rcases ha with hp | ⟨unsent, hp⟩ <;> rw [show c.status = _ from h.fits_at hp] <;> nofun
  obtain ⟨hp, -⟩ | hp | ⟨-, -, ⟨hp | ha, -⟩ | ⟨ha, -⟩⟩ := ho
  · rw [show c.status = .undefined from h.fits_at hp]
    nofun
  · intro hs
    have hconnected : c.status.isConnected = true := h.fits_at hp
    rw [hs] at hconnected
    cases hconnected
  · rw [show c.status = .free from h.fits_at hp]
    nofun
  · exact hpeer ha
  · exact hpeer ha

theorem Passing.clocked {p : Progress} (hp : c.Passing now stimulus p) (h : c.Sound) :
    c.Clocked now p.next := by
  rcases hp.contained_or_crashes with hcontained | ⟨keepAlive, rfl, hcause⟩
  · refine .keeps (by rw [hcontained.next_eq]) (by rw [hcontained.next_eq])
      (fun hc => absurd hc h.position_ne) (hp.deadline_eq.imp_right fun hd => ?_)
    rw [hd]
    rfl
  · have hs := h.not_connecting_of_overflows hcause
    exact .ends (by rw [next_crash]; exact hs) (by rw [next_crash]) (.inl (by rw [next_crash]))

/-- A write that is begun has its deadline from then on. -/
theorem clocked_beginWrite {d : Connection} (ha : c.action? = some .beginWrite)
    (hn : c.inFlight = none) (hq : d.queue ≠ []) (hs : d.status = .writing)
    (hconfig : d.config = c.config) : c.Clocked now (d.beginWrite now) := by
  obtain ⟨w, rest, hqueue⟩ := List.exists_cons_of_ne_nil hq
  refine .begins (w.dispatch now) ha hn ?_ ?_ rfl ?_
  · rw [show (d.beginWrite now).status = d.status from (settled_beginWrite d).status_eq, hs]
    nofun
  · simp only [beginWrite, hqueue]
  · rw [← hconfig]
    cases hlimit : d.config.requestTimeout with
    | none => simpa only [beginWrite, hqueue, hlimit] using Deadline.armedAt_cancel _ now
    | some limit => simpa only [beginWrite, hqueue, hlimit] using Deadline.armedAt_arm _ now limit

theorem isArmed_resolve (d : Connection) (response? : Option Nat) :
    (d.resolve now response?).next.deadline.isArmed = false := by
  unfold resolve
  cases d.inFlight <;> rfl

theorem isArmed_handleFail (d : Connection) (error? : Option ConnectionError) :
    (d.handleFail now error?).next.deadline.isArmed = false := by
  unfold handleFail failInFlight
  cases d.inFlight <;> simp

/-- What follows from a signal. -/
theorem Firing.clocked {signal : Signal} {p : Progress} (hf : c.Firing now signal p) (h : c.Sound)
    (hp : c.position = .signalled signal) : c.Clocked now p.next := by
  have hidle (hs : c.status.isBusy = false) : c.inFlight = none := (h.idle hs).2
  have hlive : ¬c.position = .crashed := h.position_ne
  cases hf with
  | rests => exact .keeps Iff.rfl rfl (fun hc => absurd hc hlive) (.inl rfl)
  | readsOn hs =>
      rw [moveTo_of_eq (c := c.attend .incomplete) hs.symm]
      exact .keeps Iff.rfl rfl (fun hc => absurd hc hlive) (.inl rfl)
  | connects hs =>
      have hne : c.status ≠ .connecting := by rcases hs with hs | hs | hs <;> simp [hs]
      have hbusy : c.status.isBusy = false := by rcases hs with hs | hs | hs <;> rw [hs] <;> rfl
      have ht : transition c.status .asyncConnect = .ok ⟨.connecting, .startConnect⟩ := by
        rcases hs with hs | hs | hs <;> rw [hs] <;> rfl
      rw [Progress.next_andThen, next_moveTo]
      exact .dials (action?_eq hp rfl ht) hne rfl (hidle hbusy)
        (Deadline.armedAt_arm c.deadline now _)
  | settles link took hs =>
      rw [Progress.next_andThen, next_moveTo]
      exact .ends (fun hs' => by cases hs') (hidle (by rw [hs]; rfl)) (.inr rfl)
  | settlesBusy link took hs hq =>
      have he : c.eventOf? (.connected link took) = some (.connected true) := by
        simp [eventOf?, hq]
      have ht : transition c.status (.connected true) = .ok ⟨.writing, .beginWrite⟩ := by
        rw [hs]
        rfl
      rw [Progress.next_andThen, Progress.next_andThen, next_moveTo]
      exact clocked_beginWrite (action?_eq hp he ht) (hidle (by rw [hs]; rfl)) hq rfl rfl
  | dispatches hs hq =>
      have he : c.eventOf? .dispatch = some .dispatch := by simp [eventOf?, hq]
      have ht : transition c.status .dispatch = .ok ⟨.writing, .beginWrite⟩ := by
        rw [hs]
        rfl
      rw [Progress.next_andThen, next_moveTo]
      exact clocked_beginWrite (action?_eq hp he ht) (hidle (by rw [hs]; rfl)) hq rfl rfl
  | awaits bytes hs he =>
      rw [Progress.next_andThen, Progress.next_andThen, next_moveTo]
      exact .keeps (by simp [hs, absorb, Connection.touch]) rfl (fun hc => absurd hc hlive)
        (.inl rfl)
  | delivers bytes hs he =>
      rw [Progress.next_andThen]
      refine .ends ?_ (inFlight_resolve _ _ _) (.inr (isArmed_resolve _ _))
      rw [status_resolve, Progress.next_andThen, next_moveTo]
      simp [absorb, Connection.touch]
  | drops =>
      rw [Progress.next_andThen, Progress.next_andThen, next_moveTo]
      exact .ends (fun hs' => by cases hs') rfl (.inr rfl)
  | responds length hs =>
      rw [Progress.next_andThen]
      refine .ends ?_ (inFlight_resolve _ _ _) (.inr (isArmed_resolve _ _))
      rw [status_resolve, status_moveTo]
      decide
  | fails =>
      rw [Progress.next_andThen]
      refine .ends ?_ (inFlight_handleFail _ _ _) (.inr (isArmed_handleFail _ _))
      rw [status_handleFail, status_moveTo]
      decide
  | closes =>
      rw [Progress.next_andThen, next_moveTo]
      exact .ends (fun hs' => by cases hs') rfl (.inr rfl)

/-- **A turn arms the deadline only for what it begins**, and disarms it only when that is over or
the deadline was due. -/
theorem Intact.clocked (h : c.Intact) (now : Instant) (stimulus : Stimulus) :
    c.Clocked now (c.turn now stimulus).next := by
  rcases h with h | h
  · obtain ⟨-, hp⟩ | ⟨signal, hp, -, hf⟩ := turn_cases now stimulus (.inr h.fits)
    · exact hp.clocked h
    · exact hf.clocked h hp
  · rw [h.turn_eq]
    exact .keeps Iff.rfl rfl id (.inl rfl)

end Connection

namespace Scene

/-! ### What the turns of a run tell -/

/-- The turn at an instant performed the action, and since then the connection has been as told. -/
def BegunAt (turns : List Turn) (action : Action) (start : Instant) (P : Connection → Prop) :
    Prop :=
  ∃ earlier cause later, turns = earlier ++ cause :: later ∧ cause.now = start ∧
    cause.connection.action? = some action ∧ ¬P cause.connection ∧ ∀ t ∈ later, P t.connection

section

variable {config : Config} {turns : List Turn} {c d : Connection} {action : Action}
  {start : Instant} {P : Connection → Prop}

theorem begunAt_concat {t : Turn} (ha : t.connection.action? = some action)
    (hn : ¬P t.connection) : BegunAt (turns ++ [t]) action t.now P :=
  ⟨turns, t, [], rfl, rfl, ha, hn, List.forall_mem_nil _⟩

theorem BegunAt.concat {t : Turn} (h : BegunAt turns action start P) (ht : P t.connection) :
    BegunAt (turns ++ [t]) action start P := by
  obtain ⟨earlier, cause, later, rfl, hstart, ha, hn, hlater⟩ := h
  exact ⟨earlier, cause, later ++ [t], by simp, hstart, ha, hn,
    List.forall_mem_append.2 ⟨hlater, List.forall_mem_singleton.2 ht⟩⟩

/-- What the turns so far tell of the deadline. -/
structure Timekept (config : Config) (turns : List Turn) (c : Connection) : Prop where
  /-- The deadline of an attempt was armed by the turn that started it. -/
  attempt : c.status = .connecting → ∃ start,
    BegunAt turns .startConnect start (·.status = .connecting) ∧
      (c.deadline.isArmed = true → c.deadline.ArmedAt start (some config.connectTimeout))
  /-- The deadline of a request was armed by the turn that began its write. -/
  request : ∀ w, c.inFlight = some w → ∃ start, w.dispatchedAt = some start ∧
    BegunAt turns .beginWrite start (·.inFlight = some w) ∧
      (c.deadline.isArmed = true → c.deadline.ArmedAt start config.requestTimeout)
  /-- There is no other. -/
  otherwise : c.position ≠ .crashed → c.status ≠ .connecting → c.inFlight = none →
    c.deadline.isArmed = false

theorem Timekept.congr (h : Timekept config turns c) (hp : d.position = c.position)
    (hs : d.status = c.status) (hw : d.inFlight = c.inFlight) (hd : d.deadline = c.deadline) :
    Timekept config turns d where
  attempt := by
    rw [hs, hd]
    exact h.attempt
  request := by
    rw [hw, hd]
    exact h.request
  otherwise := by
    rw [hp, hs, hw, hd]
    exact h.otherwise

/-- **A turn keeps what the turns tell of the deadline.** -/
theorem Timekept.turn (h : Timekept config turns c) (hi : c.Intact) (hconfig : c.config = config)
    (now : Instant) (stimulus : Stimulus) :
    Timekept config (turns ++ [⟨c, now, stimulus⟩]) (c.turn now stimulus).next := by
  have hclocked := hi.clocked now stimulus
  generalize (c.turn now stimulus).next = d at hclocked
  -- A deadline that stands, or is not armed any more, is the one it was if it is armed.
  have hstands {span? : Option Duration} {start : Instant}
      (hd : d.deadline = c.deadline ∨ d.deadline.isArmed = false)
      (hold : c.deadline.isArmed = true → c.deadline.ArmedAt start span?)
      (ha : d.deadline.isArmed = true) : d.deadline.ArmedAt start span? := by
    rcases hd with hd | hd
    · rw [hd] at ha ⊢
      exact hold ha
    · rw [hd] at ha
      cases ha
  cases hclocked with
  | dials ha hs hs' hw hd =>
      refine ⟨fun _ => ⟨now, begunAt_concat ha hs, fun _ => hconfig ▸ hd⟩, fun w hw' => ?_,
        fun _ hne _ => absurd hs' hne⟩
      cases hw.symm.trans hw'
  | begins w ha hn hs hw hw' hd =>
      refine ⟨fun hs' => absurd hs' hs, fun v hv => ?_, fun _ _ hnone => ?_⟩
      · cases hw.symm.trans hv
        refine ⟨now, hw', begunAt_concat ha ?_, fun _ => hconfig ▸ hd⟩
        intro hsome
        cases hn.symm.trans hsome
      · cases hw.symm.trans hnone
  | keeps hs hw hp hd =>
      refine ⟨fun hs' => ?_, fun w hw' => ?_, fun hp' hne hnone => ?_⟩
      · obtain ⟨start, hbegun, hold⟩ := h.attempt (hs.1 hs')
        exact ⟨start, hbegun.concat (hs.1 hs'), hstands hd hold⟩
      · obtain ⟨start, hstart, hbegun, hold⟩ := h.request w (hw.symm.trans hw')
        exact ⟨start, hstart, hbegun.concat (hw.symm.trans hw'), hstands hd hold⟩
      · rcases hd with hd | hd
        · rw [hd]
          exact h.otherwise (mt hp hp') (mt hs.2 hne) (hw.symm.trans hnone)
        · exact hd
  | ends hs hw hd =>
      refine ⟨fun hs' => absurd hs' hs, fun w hw' => ?_, fun hp _ _ => hd.resolve_left hp⟩
      cases hw.symm.trans hw'

end

/-! ### Every run -/

theorem timekept_run (now : Instant) (endpoint : Endpoint) (config : Config) (codec : FrameCodec)
    (name : Option String) (moves : List Move) :
    Timekept config ((start now endpoint config codec name).turns moves)
      ((start now endpoint config codec name).run moves).connection :=
  turns_induction ⟨nofun, nofun, fun _ _ _ => rfl⟩
    (fun _ _ later stimulus hi _ hconfig h => h.turn hi hconfig later stimulus)
    (fun _ _ _ _ halike h =>
      h.congr halike.position_eq halike.status_eq halike.inFlight_eq halike.deadline_eq) moves

/-- **Deadlines stand**, in every run and as long as there is a task.  While a connect is awaited,
the deadline is the one that was armed when this attempt was started; while a payload is written or
a response awaited, the one that was armed when the write in flight was begun, if requests have a
limit, and none otherwise.  Whatever has happened since, it is armed as it was then, unless it was
due and the error is about to be handled.  In any other status none is armed. -/
theorem deadlines_stand (now : Instant) (endpoint : Endpoint) (config : Config)
    (codec : FrameCodec) (name : Option String) (moves : List Move) :
    let first := start now endpoint config codec name
    let turns := first.turns moves
    let c := (first.run moves).connection
    c.position ≠ .crashed →
    (c.status = .connecting → ∃ start,
      BegunAt turns .startConnect start (·.status = .connecting) ∧
      (c.deadline.isArmed = true ∨ c.position.error? = none →
        c.deadline.ArmedAt start (some config.connectTimeout))) ∧
    (c.status.isBusy = true → ∃ w start, c.inFlight = some w ∧ w.dispatchedAt = some start ∧
      BegunAt turns .beginWrite start (·.inFlight = some w) ∧
      (c.deadline.isArmed = true ∨ c.position.error? = none →
        c.deadline.ArmedAt start config.requestTimeout) ∧
      (config.requestTimeout = none → c.deadline.pending = none)) ∧
    (c.status ≠ .connecting → c.status.isBusy = false → c.deadline.pending = none) := by
  intro first turns c hp
  have hr : (first.run moves).Reachable :=
    (Reachable.start now endpoint config codec name).run moves
  have hs : c.Sound := hr.intact.sound hp
  have hconfig : c.config = config :=
    (idleHistory_run now endpoint config codec name moves).watched.config_eq
  have h : Timekept config turns c := timekept_run now endpoint config codec name moves
  refine ⟨fun hc => ?_, fun hb => ?_, fun hne hb => ?_⟩
  · obtain ⟨start, hbegun, harmed⟩ := h.attempt hc
    exact ⟨start, hbegun, fun ha => harmed (ha.elim id fun he => hs.isArmed he (.inl hc))⟩
  · obtain ⟨w, hw⟩ := Option.isSome_iff_exists.1 (hs.inFlight_iff.2 hb)
    obtain ⟨start, hstart, hbegun, harmed⟩ := h.request w hw
    -- Without a limit there is nothing to be armed for.
    have hunlimited (hnone : config.requestTimeout = none) : c.deadline.pending = none := by
      cases hd : c.deadline.isArmed with
      | false => exact Deadline.isArmed_eq_false_iff.1 hd
      | true =>
          have hunset := harmed hd
          rwa [hnone] at hunset
    refine ⟨w, start, hw, hstart, hbegun, fun ha => ?_, hunlimited⟩
    cases hlimit : config.requestTimeout with
    | none => exact hunlimited hlimit
    | some limit =>
        refine hlimit ▸ harmed (ha.elim id fun he => hs.isArmed he (.inr ⟨hb, ?_⟩))
        rw [hconfig, hlimit]
        rfl
  · exact Deadline.isArmed_eq_false_iff.1 (h.otherwise hp hne (hs.idle hb).2)

/-- Requests may take five seconds, and the idle detector ticks every second. -/
def impatient : Config := { requestTimeout := some (.ofSecs 5), detectionInterval := .ofSecs 1 }

/-- A run in which a payload is handed to the socket and its response is awaited.  Meanwhile another
write is queued and announced, the owner asks for a connect, the detector ticks, and a part of the
response is read; then the detector ticks again. -/
def dribbleRun : List Move :=
  sampleRun ++ [.turn ⟨2⟩ .tick, .turn ⟨2⟩ (.accepted 1), .turn ⟨2⟩ .tick, .turn ⟨2⟩ .tick,
    .push { sampleWrite with ticket := 8 }, .wake, .turn ⟨3⟩ .command, .connect,
    .turn ⟨4⟩ .command, .turn ⟨1000000010⟩ .tick, .turn ⟨1500000000⟩ (.received [66]),
    .turn ⟨1500000000⟩ .tick, .turn ⟨1500000000⟩ .tick, .turn ⟨2500000000⟩ .tick]

/-- Whatever has happened since, the deadline is that of the turn that began the write. -/
theorem deadlines_stand_dribbleRun :
    let first := start ⟨0⟩ ⟨"node", 9001⟩ impatient .line none
    let c := (first.run dribbleRun).connection
    c.position ≠ .crashed ∧ c.status = .waiting ∧ c.block.held = [66] ∧
      c.keepAlive.due = ⟨3500000000⟩ ∧ ∃ w start,
        c.inFlight = some w ∧ w.dispatchedAt = some start ∧
        BegunAt (first.turns dribbleRun) .beginWrite start (·.inFlight = some w) ∧
        c.deadline.ArmedAt start (some (.ofSecs 5)) := by
  obtain ⟨-, hbusy, -⟩ := deadlines_stand ⟨0⟩ ⟨"node", 9001⟩ impatient .line none dribbleRun
    (by decide)
  obtain ⟨w, start, hw, hstart, hbegun, harmed, -⟩ := hbusy (by decide)
  exact ⟨by decide, by decide, by decide, by decide, w, start, hw, hstart, hbegun,
    harmed (.inl (by decide))⟩

/-- A run in which a connect is started and never ends. -/
def patientRun : List Move :=
  [.turn ⟨0⟩ .tick, .turn ⟨0⟩ .tick, .connect, .turn ⟨0⟩ .command, .turn ⟨0⟩ .tick,
    .turn ⟨0⟩ .tick]

/-- **A deadline beyond the range of the clock falls due after thirty years**, long before the span
is over that it was armed for. -/
theorem deadline_falls_short :
    let config : Config := { connectTimeout := .ofSecs maxWord }
    let s := (start ⟨0⟩ ⟨"node", 9001⟩ config .line none).run patientRun
    let late := (⟨0⟩ : Instant).after Deadline.farAway
    config.check = .ok config ∧ s.connection.status = .connecting ∧
      s.connection.deadline.due? = some late ∧
      late ≠ (⟨0⟩ : Instant).after config.connectTimeout ∧
      (s.run [.turn late .deadline, .turn late .tick]).connection.status = .connectFailed := by
  decide

end Scene

end Uplink
