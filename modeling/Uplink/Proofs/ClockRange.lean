/-
Times that cannot be represented.

A task adds up two times in a few places.  At a tick of a busy connection, the idle time is added to
the interval of the ticks.  The interval is added to the present when the detector is started, when
its ticks are counted anew after an activity, and when a tick is taken late.  Any settings can be
run with, as long as these sums are within the range of the platform; settings that are too large
stop the task, whatever was checked before.

* `Uplink.Connection.Sound.crashes_iff` — **a task is stopped exactly when it needs a sum that has
  no result**;
* `Uplink.Connection.Intact.hasRoom_eq_false` — it is about to be stopped only when the clock has no
  room for an interval;
* `Uplink.Scene.inRange_run` — as long as the clock has room, no tick is planned beyond its range.

Main result: `Uplink.Scene.stopped_only_beyond_range`.
-/

import Uplink.Proofs.Idleness

set_option relaxedAutoImplicit false
set_option autoImplicit false

namespace Uplink

namespace Connection

variable {c : Connection} {now : Instant} {stimulus : Stimulus}

/-! ### What stops a task -/

theorem turn_tick (ha : c.AwaitsPeer) : c.turn now .tick = c.observeBusyTick now := by
  rcases ha with hp | ⟨unsent, hp⟩ <;> rw [Connection.turn, hp] <;> rfl

/-- A task that needs a sum that has no result crashes. -/
theorem Sound.turn_of_overflows (h : c.Sound) (ho : c.Overflows now stimulus) :
    ∃ keepAlive, c.turn now stimulus = { c with keepAlive }.crash := by
  obtain ⟨hp, hfar⟩ | hp | ⟨rfl, hdue, ⟨hp | ha, htick⟩ | ⟨ha, hsum⟩⟩ := ho
  · have hturn : c.turn now stimulus = c.start now := by rw [Connection.turn, hp]
    rw [hturn, Connection.start, (KeepAlive.start?_eq_none_iff ..).2 hfar]
    exact ⟨c.keepAlive, rfl⟩
  · have hturn : c.turn now stimulus = c.crash := by rw [Connection.turn, hp]
    exact ⟨c.keepAlive, hturn⟩
  · have hlt : ¬now < c.keepAlive.due := Nat.not_lt.2 hdue
    have hturn : c.turn now .tick = c.observeFreeTick now := by rw [Connection.turn, hp]; rfl
    rw [hturn, observeFreeTick, if_neg hlt, htick]
    exact ⟨c.keepAlive, rfl⟩
  · have hlt : ¬now < c.keepAlive.due := Nat.not_lt.2 hdue
    rw [turn_tick ha, observeBusyTick, if_neg hlt, htick]
    exact ⟨c.keepAlive, rfl⟩
  · have hlt : ¬now < c.keepAlive.due := Nat.not_lt.2 hdue
    have hs : c.status.isBusy = true := by
      rcases ha with hp | ⟨unsent, hp⟩ <;> rw [show c.status = _ from h.fits_at hp] <;> rfl
    rw [turn_tick ha, observeBusyTick, if_neg hlt]
    rcases c.keepAlive.tick?_cases now with htick | ⟨due, -, htick⟩ <;> rw [htick]
    · exact ⟨c.keepAlive, rfl⟩
    · have hnone (last : Instant) : { c.keepAlive with due }.check? c.status last c.keepAlive.due
          false = none := (KeepAlive.check?_eq_none_iff ..).2 ⟨hs, hsum⟩
      simp only [hnone]
      exact ⟨_, rfl⟩

/-- **A task is stopped exactly when it needs a sum that has no result.** -/
theorem Sound.crashes_iff (h : c.Sound) :
    (c.turn now stimulus).next.position = .crashed ↔ c.Overflows now stimulus := by
  constructor
  · intro hcrash
    obtain ⟨-, hpassing⟩ | ⟨signal, -, -, hf⟩ := turn_cases now stimulus (.inr h.fits)
    · rcases hpassing.contained_or_crashes with hcontained | ⟨-, -, ho⟩
      · exact absurd (hcontained.crashed hcrash) h.position_ne
      · exact ho
    · rcases hf.position_cases with hp | ⟨hp, -⟩ <;> cases hp.symm.trans hcrash
  · intro ho
    obtain ⟨keepAlive, hturn⟩ := h.turn_of_overflows ho
    rw [hturn, next_crash]

/-- A turn that fires no signal leaves the task about to be stopped only when the clock has no room
for an interval. -/
theorem Passing.hasRoom_eq_false {p : Progress} (hp : c.Passing now stimulus p)
    (ho : p.next.position = .overflowed) : c.keepAlive.hasRoom now = false := by
  cases hp with
  | readsBeyond _ _ _ _ hroom | answersBeyond _ _ _ _ _ hroom => exact hroom
  | rests hp =>
      rcases hp with ⟨phase, hp⟩ | hgone
      · cases hp.symm.trans ho
      · simp [isGone, show c.position = .overflowed from ho] at hgone
  | swallows phase command hp | plans phase keepAlive hp => cases hp.symm.trans ho
  | crashes =>
      rw [next_crash] at ho
      cases ho
  | settles =>
      obtain ⟨block, -, heq⟩ := c.parkFree_eq
      rw [heq] at ho
      cases ho
  | obeys phase command => cases command <;> cases ho
  | probesLast probe unsent count tick =>
      obtain ⟨block, -, heq⟩ := c.completeProbe_eq probe tick
      rw [Progress.next_andThen, next_transmit, heq] at ho
      cases ho
  | probesAtOnce keepAlive tick =>
      obtain ⟨block, -, heq⟩ := { c with keepAlive }.completeProbe_eq [] tick
      rw [heq] at ho
      cases ho
  | answersPart bytes =>
      obtain ⟨block, -, heq⟩ := (c.receive bytes).parkFree_eq
      rw [heq] at ho
      cases ho
  | _ => cases ho

/-- A turn leaves the task about to be stopped only when the clock has no room for an interval. -/
theorem Intact.hasRoom_eq_false (h : c.Intact)
    (ho : (c.turn now stimulus).next.position = .overflowed) :
    c.keepAlive.hasRoom now = false := by
  obtain ⟨-, hpassing⟩ | ⟨signal, -, -, hf⟩ := turn_cases now stimulus h.fits
  · exact hpassing.hasRoom_eq_false ho
  · rcases hf.position_cases with hp | ⟨-, hroom⟩
    · cases hp.symm.trans ho
    · exact hroom

/-! ### What is planned -/

/-- A detector that is started plans a tick that can be represented. -/
theorem due_start (h : now.ns + c.config.detectionInterval.ns < Instant.limit) :
    (c.start now).next.keepAlive.due.ns < Instant.limit := by
  have hdue : now.after? c.config.detectionInterval =
      some (now.after c.config.detectionInterval) := if_pos h
  unfold start KeepAlive.start?
  rw [hdue]
  exact h

/-- A turn goes on to plan ticks that can be represented. -/
theorem Intact.due_turn (h : c.Intact) (ht : c.Tuned)
    (hnow : now.ns + c.config.detectionInterval.ns < Instant.limit)
    (hdue : c.position ≠ .spawned → c.keepAlive.due.ns < Instant.limit) :
    (c.turn now stimulus).next.keepAlive.due.ns < Instant.limit := by
  by_cases hp : c.position = .spawned
  · rw [Connection.turn, hp]
    exact due_start hnow
  · have hgoes := (Turn.idleStep ⟨c, now, stimulus⟩ h ht).goes.due
    rw [ht.interval_eq] at hgoes
    change (c.turn now stimulus).next.keepAlive.due = _ ∨
      (c.turn now stimulus).next.keepAlive.due = _ ∨
      _ ∧ (c.turn now stimulus).next.keepAlive.due = _ at hgoes
    rcases hgoes with heq | heq | ⟨hle, heq⟩
    · rw [heq]
      exact hdue hp
    · rw [heq]
      exact hnow
    · rw [heq]
      exact Nat.lt_of_le_of_lt (Nat.add_le_add_right hle _) hnow

end Connection

/-! ### Every run -/

namespace Scene

/-- Every turn leaves room for an interval after the present. -/
def Roomy (config : Config) (turns : List Turn) : Prop :=
  ∀ t ∈ turns, t.now.ns + config.detectionInterval.ns < Instant.limit

/-- What is left of the times within their ranges. -/
structure InRange (config : Config) (c : Connection) : Prop where
  /-- The next tick can be represented. -/
  due : c.position ≠ .spawned → c.keepAlive.due.ns < Instant.limit
  /-- The task is not about to be stopped. -/
  position_ne : c.position ≠ .overflowed
  /-- The task is not stopped, unless the settings are too large. -/
  live : config.idleTime.ns + config.detectionInterval.ns < Duration.limit →
    c.position ≠ .crashed

theorem InRange.turn {config : Config} {c : Connection} {now : Instant} {stimulus : Stimulus}
    (h : InRange config c) (hi : c.Intact) (ht : c.Tuned) (hc : c.config = config)
    (hnow : now.ns + config.detectionInterval.ns < Instant.limit) :
    InRange config (c.turn now stimulus).next where
  due _ := hi.due_turn ht (hc ▸ hnow) h.due
  position_ne ho := by
    have hfar := (KeepAlive.hasRoom_eq_false_iff ..).1 (hi.hasRoom_eq_false ho)
    rw [ht.interval_eq, hc] at hfar
    exact Nat.not_le.2 hnow hfar
  live hsum hcrash := by
    have hs := hi.sound (h.live hsum)
    obtain ⟨-, hfar⟩ | hp | ⟨-, -, ⟨-, htick⟩ | ⟨-, hfar⟩⟩ := hs.crashes_iff.1 hcrash
    · rw [hc] at hfar
      exact Nat.not_le.2 hnow hfar
    · exact h.position_ne hp
    · have hfar := ((KeepAlive.tick?_eq_none_iff ..).1 htick).2
      rw [ht.interval_eq, hc] at hfar
      exact Nat.not_le.2 hnow hfar
    · rw [ht.idleTime_eq, ht.interval_eq, hc] at hfar
      exact Nat.not_le.2 hsum hfar

/-- As long as turns leave room, all times stay within their ranges. -/
theorem inRange_run (now : Instant) (endpoint : Endpoint) (config : Config) (codec : FrameCodec)
    (name : Option String) (moves : List Move)
    (hroom : Roomy config ((start now endpoint config codec name).turns moves)) :
    InRange config ((start now endpoint config codec name).run moves).connection := by
  revert hroom
  refine turns_induction (P := fun turns c => Roomy config turns → InRange config c)
    (fun _ => ⟨fun hp => absurd rfl hp, nofun, fun _ => nofun⟩)
    (fun turns c later stimulus hi ht hconfig h hroom => ?_)
    (fun _ _ _ _ halike h hroom => ?_) moves
  · have hbefore := h fun t ht => hroom t (List.mem_append_left _ ht)
    exact hbefore.turn hi ht hconfig
      (hroom ⟨c, later, stimulus⟩ (List.mem_append_right _ (List.mem_singleton_self _)))
  · have hbefore := h hroom
    exact ⟨by rw [halike.position_eq, halike.keepAlive_eq]; exact hbefore.due,
      by rw [halike.position_eq]; exact hbefore.position_ne,
      by rw [halike.position_eq]; exact hbefore.live⟩

/-- **A task is stopped by times that are too large, and by nothing else**, in every run and with
any settings.  The decision at a tick has no result exactly for a busy connection whose idle time
and interval have no sum.  A turn stops the task exactly when it takes such a tick; when it takes a
tick late, or starts the detector, and there is no room for an interval after the present; or when
there was none after an activity.  As long as turns leave room for an interval after the present,
every tick that is planned can be represented, and if the two settings have a sum the task is never
stopped. -/
theorem stopped_only_beyond_range (now : Instant) (endpoint : Endpoint) (config : Config)
    (codec : FrameCodec) (name : Option String) (moves : List Move) :
    let first := start now endpoint config codec name
    let c := (first.run moves).connection
    (∀ status last tick canProbe, c.keepAlive.check? status last tick canProbe = none ↔
      status.isBusy = true ∧
        Duration.limit ≤ config.idleTime.ns + config.detectionInterval.ns) ∧
    (c.position ≠ .crashed → ∀ now stimulus,
      ((c.turn now stimulus).next.position = .crashed ↔
        c.position = .spawned ∧ Instant.limit ≤ now.ns + config.detectionInterval.ns ∨
        c.position = .overflowed ∨
        stimulus = .tick ∧ c.keepAlive.due ≤ now ∧
          ((c.position = .parked .free ∨ c.AwaitsPeer) ∧
              c.keepAlive.due.after KeepAlive.tolerance < now ∧
              Instant.limit ≤ now.ns + config.detectionInterval.ns ∨
            c.AwaitsPeer ∧
              Duration.limit ≤ config.idleTime.ns + config.detectionInterval.ns)) ∧
      ((c.turn now stimulus).next.position = .overflowed →
        Instant.limit ≤ now.ns + config.detectionInterval.ns)) ∧
    (Roomy config (first.turns moves) →
      (c.position ≠ .spawned → c.keepAlive.due.ns < Instant.limit) ∧
      c.position ≠ .overflowed ∧
      (config.idleTime.ns + config.detectionInterval.ns < Duration.limit →
        c.position ≠ .crashed)) := by
  intro first c
  have hr : (first.run moves).Reachable :=
    (Reachable.start now endpoint config codec name).run moves
  have hconfig : c.config = config :=
    (idleHistory_run now endpoint config codec name moves).watched.config_eq
  have hidle : c.keepAlive.idleTime = config.idleTime := hconfig ▸ hr.tuned.idleTime_eq
  have hinterval : c.keepAlive.interval = config.detectionInterval := hconfig ▸ hr.tuned.interval_eq
  refine ⟨fun status last tick canProbe => ?_, fun hp now stimulus => ⟨?_, fun ho => ?_⟩,
    fun hroom => ?_⟩
  · rw [KeepAlive.check?_eq_none_iff, hidle, hinterval]
  · rw [(hr.intact.sound hp).crashes_iff, Connection.Overflows, KeepAlive.tick?_eq_none_iff,
      hconfig, hidle, hinterval]
  · rw [← hinterval]
    exact (KeepAlive.hasRoom_eq_false_iff ..).1 (hr.intact.hasRoom_eq_false ho)
  · have h := inRange_run now endpoint config codec name moves hroom
    exact ⟨h.due, h.position_ne, h.live⟩

/-- Nothing is out of range with the default settings. -/
theorem stopped_only_beyond_range_sample :
    Roomy {} ((start ⟨0⟩ ⟨"node", 9001⟩ {} .line none).turns sampleRun) ∧
      sample.connection.position ≠ .crashed ∧
      sample.connection.keepAlive.due.ns < Instant.limit ∧
      (sample.connection.turn ⟨10000000002⟩ .tick).next.position ≠ .crashed := by
  have h := stopped_only_beyond_range ⟨0⟩ ⟨"node", 9001⟩ {} .line none sampleRun
  have hroom : Roomy {} ((start ⟨0⟩ ⟨"node", 9001⟩ {} .line none).turns sampleRun) := by
    unfold Roomy
    decide
  obtain ⟨hdue, -, hlive⟩ := h.2.2 hroom
  have hlive := hlive (by decide)
  refine ⟨hroom, hlive, hdue (by decide), fun hcrash => ?_⟩
  obtain ⟨hp, -⟩ | hp | ⟨-, -, ⟨-, -, hfar⟩ | ⟨-, hfar⟩⟩ :=
    (h.2.1 hlive ⟨10000000002⟩ .tick).1.1 hcrash
  · exact absurd hp (by decide)
  · exact absurd hp (by decide)
  · exact absurd hfar (by decide)
  · exact absurd hfar (by decide)

/-- A run in which a connection is still writing when the first tick is due.  Then another write is
queued, and the owner asks for a close. -/
def strandedRun : List Move :=
  sampleRun ++ [.turn ⟨10000000002⟩ .tick, .push { sampleWrite with ticket := 8 }, .wake, .close 1]

/-- **Settings that were checked stop the task**, at the first tick of a busy connection.  The
status stays, the write that was queued is never resolved, and the owner is released although
nothing was closed. -/
theorem stopped_though_valid :
    let config : Config := { idleTime := .ofSecs maxWord }
    let s := (start ⟨0⟩ ⟨"node", 9001⟩ config .line none).run strandedRun
    Duration.parse "18446744073709551615s" = .ok config.idleTime ∧ config.check = .ok config ∧
      s.connection.position = .crashed ∧ s.connection.status = .writing ∧ s.queued = [8] ∧
      s.resolved = [7] ∧ Effect.released 1 ∈ s.effects := by
  decide

end Scene

end Uplink
