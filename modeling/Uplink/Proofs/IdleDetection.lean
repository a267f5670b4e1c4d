/-
What a turn does with the idle detector.

A probe is begun at a tick, is sent piece by piece, and is outstanding from then on until it is
answered or the connection fails.  A connection is failed for idleness when it cannot be probed,
when the probe cannot be sent or is not answered, or when a request has taken so long that a probe
would have been overdue.  Everything else leaves the detector alone, or counts its interval anew.

* `Uplink.Turn` — a turn of the task: what it found, when, and what happened;
* `Uplink.Connection.probe?` — the tick that wanted the probe that is sent or outstanding;
* `Uplink.Turn.Begins` — the turn begins a probe;
* `Uplink.Turn.Condemns` — the turn finds that the connection has been idle for too long;
* `Uplink.KeepAlive.Goes` — how the detector goes on;
* `Uplink.Turn.IdleStep` — what a turn does with it;
* `Uplink.Connection.Steady` — most turns begin no probe, and find nothing wrong;
* `Uplink.Turn.idleStep` — **every turn does no more than that.**
-/

import Uplink.Proofs.Sound

set_option relaxedAutoImplicit false
set_option autoImplicit false

namespace Uplink

/-! ### Turns -/

/-- A turn of the task. -/
structure Turn where
  /-- The connection that it finds. -/
  connection : Connection
  /-- When it happens. -/
  now : Instant
  /-- What happens. -/
  stimulus : Stimulus

namespace Turn

/-- What the turn does. -/
def progress (t : Turn) : Progress := t.connection.turn t.now t.stimulus

end Turn

namespace Connection

/-- The tick that wanted the probe that is being sent or is outstanding. -/
def probe? (c : Connection) : Option Instant :=
  match c.position with
  | .parked (.probing _ _ tick _) => some tick
  | _ => c.keepAlive.probeSentAt

/-- The detector is set as the connection is. -/
structure Tuned (c : Connection) : Prop where
  idleTime_eq : c.keepAlive.idleTime = c.config.idleTime
  interval_eq : c.keepAlive.interval = c.config.detectionInterval

theorem tuned_spawn (now : Instant) (endpoint : Endpoint) (config : Config) (codec : FrameCodec)
    (name : Option String) : (spawn now endpoint config codec name).Tuned := ⟨rfl, rfl⟩

end Connection

/-- No probe is being sent, and the connection is not about to be failed for idleness. -/
def Position.isQuiet : Position → Bool
  | parked (.probing _ _ _ _) | signalled (.idle _) => false
  | _ => true

namespace Turn

/-- The turn begins a probe: at a tick, because the connection has been idle for long enough, and
while no other probe is sent or outstanding. -/
structure Begins (t : Turn) (tick : Instant) : Prop where
  stimulus_eq : t.stimulus = .tick
  position_eq : t.connection.position = .parked .free
  /-- The tick is due. -/
  tick_eq : t.connection.keepAlive.due = tick
  le : tick ≤ t.now
  idle : t.connection.config.idleTime ≤ tick.since t.connection.lastActivity
  probe?_eq : t.connection.probe? = none
  canProbe : t.connection.codec.probe.isSome = true

/-- There will be no answer to a probe, or none that is one. -/
inductive Unanswered (t : Turn) : Prop
  | ended (hst : t.stimulus = .ended)
  | failed (error : OsError) (hst : t.stimulus = .readFailed error)
  /-- There is no room for the rest of the answer. -/
  | overfull (fault : ProtocolFault) (hst : t.stimulus = .overfull)
      (hroom : t.connection.block.reserve = .error fault)
  /-- The answer is none. -/
  | malformed (bytes : Bytes) (fault : FrameFault) (hst : t.stimulus = .received bytes)
      (hv : t.connection.codec.check (t.connection.receive
        (bytes.take t.connection.block.room)).block.held = .malformed fault)
  /-- The answer is complete, and there is more. -/
  | trailing (bytes : Bytes) (length : Nat) (hst : t.stimulus = .received bytes)
      (hv : t.connection.codec.check (t.connection.receive
        (bytes.take t.connection.block.room)).block.held = .complete length)
      (hl : length ≠ (t.connection.receive
        (bytes.take t.connection.block.room)).block.held.length)

/-- The turn finds that the connection has been idle for too long, in a status. -/
inductive Condemns (t : Turn) : Status → Prop
  /-- At a tick, the connection has been idle for long enough, and cannot be probed. -/
  | unprobed (hst : t.stimulus = .tick) (hp : t.connection.position = .parked .free)
      (hdue : t.connection.keepAlive.due ≤ t.now) (hprobe : t.connection.codec.probe = none)
      (hidle : t.connection.config.idleTime ≤
        t.connection.keepAlive.due.since t.connection.lastActivity) : Condemns t .free
  /-- Sending the probe fails, or takes too long. -/
  | unsent (probe unsent : Bytes) (tick expiry : Instant)
      (hp : t.connection.position = .parked (.probing probe unsent tick expiry))
      (hst : (∃ error, t.stimulus = .writeFailed error) ∨
        t.stimulus = .probeExpired ∧ expiry ≤ t.now) : Condemns t .free
  /-- A probe is outstanding, and will not be answered. -/
  | unanswered (hp : t.connection.position = .parked .free)
      (hk : t.connection.keepAlive.isProbing = true) (hanswer : t.Unanswered) : Condemns t .free
  /-- A probe is outstanding, and a tick comes an interval after the one that sent it. -/
  | overdue (sent : Instant) (hst : t.stimulus = .tick)
      (hp : t.connection.position = .parked .free)
      (hk : t.connection.keepAlive.probeSentAt = some sent)
      (hdue : t.connection.keepAlive.due ≤ t.now)
      (hoverdue : t.connection.config.detectionInterval ≤
        t.connection.keepAlive.due.since sent) : Condemns t .free
  /-- At a tick, a request has been without activity for as long as it takes to find out that a
  probe is not answered. -/
  | stuck (status : Status) (hst : t.stimulus = .tick)
      (hs : status = .writing ∨ status = .waiting)
      (hdue : t.connection.keepAlive.due ≤ t.now)
      (hidle : t.connection.config.idleTime.ns + t.connection.config.detectionInterval.ns ≤
        (t.connection.keepAlive.due.since t.connection.lastActivity).ns) : Condemns t status

end Turn

/-! ### The detector -/

namespace KeepAlive

variable {k k' : KeepAlive} {now tick : Instant}

/-- The detector counts its interval anew, or takes a tick that is due, or none of that. -/
structure Goes (now : Instant) (k k' : KeepAlive) : Prop where
  idleTime_eq : k'.idleTime = k.idleTime
  interval_eq : k'.interval = k.interval
  due : k'.due = k.due ∨ k'.due = now.after k.interval ∨
    k.due ≤ now ∧ k'.due = k.due.after k.interval

theorem Goes.refl (now : Instant) (k : KeepAlive) : Goes now k k := ⟨rfl, rfl, .inl rfl⟩

theorem goes_touch (now : Instant) (k : KeepAlive) : Goes now k (k.touch now) :=
  ⟨rfl, rfl, .inr (.inl rfl)⟩

theorem goes_clearProbe (now : Instant) (k : KeepAlive) : Goes now k k.clearProbe :=
  ⟨rfl, rfl, .inl rfl⟩

/-- Whether a probe is outstanding makes no difference. -/
theorem Goes.clearProbe (h : Goes now k k') : Goes now k k'.clearProbe :=
  ⟨h.idleTime_eq, h.interval_eq, h.due⟩

theorem Goes.probeSent (h : Goes now k k') (sentAt : Instant) : Goes now k (k'.probeSent sentAt) :=
  ⟨h.idleTime_eq, h.interval_eq, h.due⟩

theorem goes_due {due : Instant} (hdue : k.due ≤ now)
    (h : due = now.after k.interval ∨ due = k.due.after k.interval) :
    Goes now k { k with due } :=
  ⟨rfl, rfl, .inr (h.imp_right fun heq => ⟨hdue, heq⟩)⟩

theorem nextDue_cases (k : KeepAlive) (now : Instant) :
    k.nextDue now = now.after k.interval ∨ k.nextDue now = k.due.after k.interval := by
  unfold nextDue
  split
  · exact .inl rfl
  · exact .inr rfl

/-- A tick that is due is taken, whether a probe is outstanding or not, unless the clock has no room
for the next one. -/
theorem tick?_of_due (hdue : k.due ≤ now) : k.tick? now = none ∨
    ∃ k', k.tick? now = some (k.due, k') ∧ Goes now k k' ∧ k'.probeSentAt = k.probeSentAt := by
  refine (k.tick?_cases now).imp_right fun ⟨due, hnext, htick⟩ => ?_
  exact ⟨_, htick, goes_due hdue (hnext ▸ k.nextDue_cases now), rfl⟩

/-- A request that has been without activity for too long. -/
theorem le_of_checkBusy? {idle span : Duration} (h : k.checkBusy? idle = some (.expired span)) :
    k.idleTime.ns + k.interval.ns ≤ idle.ns := by
  obtain ⟨limit, hlimit, hcheck⟩ := Option.map_eq_some_iff.1 h
  obtain ⟨-, hsum⟩ := Duration.add?_eq_some_iff.1 hlimit
  split at hcheck
  next hle =>
    rw [← hsum]
    exact hle
  next => cases hcheck

section

variable {idle span : Duration} {canProbe : Bool}

/-- A free connection is probed when it has been idle for long enough. -/
theorem of_checkFree_eq_probe (h : k.checkFree idle now canProbe = .probe) :
    k.probeSentAt = none ∧ k.idleTime ≤ idle ∧ canProbe = true := by
  unfold checkFree at h
  split at h
  · split at h <;> cases h
  next hk =>
    split at h
    · cases h
    next hidle =>
      split at h
      next hprobe => exact ⟨hk, Nat.le_of_not_lt hidle, hprobe⟩
      next => cases h

/-- A free connection is failed when its probe stays unanswered, or when it cannot be probed. -/
theorem of_checkFree_eq_expired (h : k.checkFree idle now canProbe = .expired span) :
    (∃ sent, k.probeSentAt = some sent ∧ k.interval ≤ now.since sent) ∨
      k.idleTime ≤ idle ∧ canProbe = false := by
  unfold checkFree at h
  split at h
  next sent hk =>
    split at h
    next hle => exact .inl ⟨sent, hk, hle⟩
    next => cases h
  next =>
    split at h
    · cases h
    next hidle =>
      split at h
      · cases h
      next hprobe => exact .inr ⟨Nat.le_of_not_lt hidle, by simpa using hprobe⟩

end

end KeepAlive

namespace Turn

/-! ### What a turn does -/

/-- What a turn does with the detector. -/
structure IdleStep (t : Turn) (d : Connection) : Prop where
  config_eq : d.config = t.connection.config
  goes : t.connection.keepAlive.Goes t.now d.keepAlive
  /-- A probe that is sent or outstanding was so before, or is begun. -/
  probe : ∀ tick, d.probe? = some tick → t.connection.probe? = some tick ∨ t.Begins tick
  /-- A connection that is about to be failed for idleness has been idle for too long. -/
  idle : ∀ span, d.position = .signalled (.idle span) → t.Condemns t.connection.status

end Turn

namespace Connection

variable {c d : Connection} {now tick : Instant} {stimulus : Stimulus}

/-- Once the detector is set as the connection is, it stays so. -/
theorem Tuned.idleStep {t : Turn} (h : t.connection.Tuned) (hv : t.IdleStep d) : d.Tuned where
  idleTime_eq := by rw [hv.goes.idleTime_eq, hv.config_eq, h.idleTime_eq]
  interval_eq := by rw [hv.goes.interval_eq, hv.config_eq, h.interval_eq]

/-- A probe that is outstanding is one. -/
theorem probe?_of_probeSentAt (h : c.Intact) (hk : c.keepAlive.probeSentAt = some tick) :
    c.probe? = some tick := by
  have hfits := h.fits
  unfold probe?
  split
  next hp =>
    -- No second probe is sent while one is outstanding.
    rw [hp] at hfits
    have hnone := (hfits.resolve_left nofun).2
    rw [KeepAlive.isProbing, hk] at hnone
    cases hnone
  next => exact hk

/-! ### Turns that are quiet -/

/-- A step that begins no probe and finds nothing wrong with the time without activity. -/
structure Steady (c : Connection) (now : Instant) (d : Connection) : Prop where
  config_eq : d.config = c.config
  goes : c.keepAlive.Goes now d.keepAlive
  probeSentAt : d.keepAlive.probeSentAt = c.keepAlive.probeSentAt ∨ d.keepAlive.probeSentAt = none
  isQuiet : d.position.isQuiet = true

theorem Steady.idleStep (h : c.Steady now d) (hi : c.Intact) :
    Turn.IdleStep ⟨c, now, stimulus⟩ d where
  config_eq := h.config_eq
  goes := h.goes
  probe tick hd := by
    have hq := h.isQuiet
    have hk : d.keepAlive.probeSentAt = some tick := by
      unfold probe? at hd
      split at hd
      next hp =>
        rw [hp] at hq
        cases hq
      next => exact hd
    rcases h.probeSentAt with heq | hnone
    · exact .inl (probe?_of_probeSentAt hi (heq.symm.trans hk))
    · rw [hnone] at hk
      cases hk
  idle span hp := by
    have hq := h.isQuiet
    rw [hp] at hq
    cases hq

/-- The detector stays as it is. -/
theorem steady_of_eq (hc : d.config = c.config) (hk : d.keepAlive = c.keepAlive)
    (hq : d.position.isQuiet = true) : c.Steady now d :=
  ⟨hc, hk ▸ .refl now _, .inl (by rw [hk]), hq⟩

/-- A task that crashes has no probe any more. -/
theorem steady_crash {keepAlive : KeepAlive} (hgoes : c.keepAlive.Goes now keepAlive) :
    c.Steady now { c with keepAlive }.crash.next := by
  rw [next_crash]
  exact ⟨rfl, hgoes.clearProbe, .inr rfl, rfl⟩

theorem steady_start (ht : c.Tuned) : c.Steady now (c.start now).next := by
  unfold start
  cases hk : KeepAlive.start? now c.config.idleTime c.config.detectionInterval with
  | none => exact steady_crash (.refl now _)
  | some keepAlive =>
      obtain ⟨due, hdue, rfl⟩ := Option.map_eq_some_iff.1 hk
      have hdue : now.after c.keepAlive.interval = due := by
        rw [ht.interval_eq]
        unfold Instant.after? at hdue
        split at hdue
        · exact Option.some.inj hdue
        · cases hdue
      exact ⟨rfl, ⟨ht.idleTime_eq.symm, ht.interval_eq.symm, .inr (.inl hdue.symm)⟩, .inr rfl, rfl⟩

theorem steady_enter (h : c.Sound) : c.Steady now (c.enter now).next := by
  unfold enter
  split
  · exact steady_of_eq rfl rfl rfl
  split
  next => exact steady_of_eq rfl rfl rfl
  next => exact steady_of_eq rfl rfl rfl
  next => exact steady_of_eq rfl rfl rfl
  next hs =>
    have hsocket : c.socket ≠ none := by
      rw [← Option.isSome_iff_ne_none, h.socket_iff, hs]
      rfl
    unfold enterFree
    split
    · exact steady_of_eq rfl rfl rfl
    · obtain ⟨block, -, heq⟩ := c.parkFree_eq
      rw [heq]
      exact steady_of_eq rfl rfl rfl
  next =>
    unfold enterWriting
    split <;> exact steady_of_eq rfl rfl rfl
  next =>
    unfold enterWaiting
    split
    · exact steady_of_eq rfl rfl rfl
    · obtain ⟨block, -, heq⟩ := c.makeRoom_eq
      rw [heq]
      exact steady_of_eq rfl rfl rfl
  next => exact steady_of_eq rfl rfl rfl

/-- Nothing happens. -/
theorem Steady.rests (hq : c.position.isQuiet = true) : c.Steady now c := steady_of_eq rfl rfl hq

theorem steady_observeIdleCommand (hq : c.position.isQuiet = true) :
    c.Steady now c.observeIdleCommand.next := by
  unfold observeIdleCommand
  split
  next d h => obtain ⟨rfl, -⟩ := readCommand_eq_some h; exact steady_of_eq rfl rfl rfl
  next d h => obtain ⟨rfl, -⟩ := readCommand_eq_some h; exact steady_of_eq rfl rfl hq
  next waiter d h => obtain ⟨rfl, -⟩ := readCommand_eq_some h; exact steady_of_eq rfl rfl rfl
  next => exact .rests hq

theorem steady_observeBusyCommand (hq : c.position.isQuiet = true) :
    c.Steady now c.observeBusyCommand.next := by
  unfold observeBusyCommand
  split
  next waiter d h => obtain ⟨rfl, -⟩ := readCommand_eq_some h; exact steady_of_eq rfl rfl rfl
  next d _ h => obtain ⟨rfl, -⟩ := readCommand_eq_some h; exact steady_of_eq rfl rfl hq
  next => exact .rests hq

theorem steady_observeFreeCommand (hq : c.position.isQuiet = true) :
    c.Steady now c.observeFreeCommand.next := by
  unfold observeFreeCommand
  split
  next d h => obtain ⟨rfl, -⟩ := readCommand_eq_some h; exact steady_of_eq rfl rfl rfl
  next d h =>
    obtain ⟨rfl, -⟩ := readCommand_eq_some h
    split
    · exact steady_of_eq rfl rfl rfl
    · exact steady_of_eq rfl rfl hq
  next waiter d h => obtain ⟨rfl, -⟩ := readCommand_eq_some h; exact steady_of_eq rfl rfl rfl
  next => exact .rests hq

theorem steady_observeDeadline {ending : Duration → Signal} (hq : c.position.isQuiet = true)
    (he : ∀ span, (Position.signalled (ending span)).isQuiet = true) :
    c.Steady now (c.observeDeadline now ending).next := by
  unfold observeDeadline
  split
  · exact steady_of_eq rfl rfl (he _)
  · exact .rests hq

theorem steady_observeOverfull {ending : ProtocolFault → Progress} (hq : c.position.isQuiet = true)
    (he : ∀ fault, c.Steady now (ending fault).next) :
    c.Steady now (c.observeOverfull ending).next := by
  unfold observeOverfull
  split
  · exact .rests hq
  · exact he _

theorem steady_observeConnecting {since : Instant} (hq : c.position.isQuiet = true) :
    c.Steady now (c.observeConnecting now since stimulus).next := by
  unfold observeConnecting
  split
  · exact steady_of_eq rfl rfl rfl
  · exact steady_of_eq rfl rfl rfl
  · exact steady_observeDeadline hq fun _ => rfl
  · exact steady_observeBusyCommand hq
  · exact .rests hq

theorem steady_observeResponse {bytes : Bytes} (hq : c.position.isQuiet = true) :
    c.Steady now (c.observeResponse now bytes).next := by
  unfold observeResponse
  simp only
  split
  · exact .rests hq
  · rw [proceed_eq]
    refine ⟨rfl, c.keepAlive.goes_touch now, .inl rfl, ?_⟩
    simp only
    split
    · rfl
    · obtain ⟨hv, -⟩ | ⟨hv, -⟩ | ⟨fault, hv⟩ := ((c.receive _).touch now).verdict_cases
      all_goals
        rw [hv]
        rfl

/-- Something that is no tick happens while a payload is written. -/
theorem steady_observeWriting {unsent : Bytes} (hq : c.position.isQuiet = true)
    (hst : stimulus ≠ .tick) : c.Steady now (c.observeWriting now unsent stimulus).next := by
  unfold observeWriting
  split
  next =>
    simp only [Progress.next_andThen]
    split <;> exact steady_of_eq rfl rfl rfl
  next => exact steady_of_eq rfl rfl rfl
  next => exact steady_observeDeadline hq fun _ => rfl
  next => exact absurd rfl hst
  next => exact steady_observeBusyCommand hq
  next => exact .rests hq

/-- Something that is no tick happens while a response is awaited. -/
theorem steady_observeWaiting (hq : c.position.isQuiet = true) (hst : stimulus ≠ .tick) :
    c.Steady now (c.observeWaiting now stimulus).next := by
  unfold observeWaiting
  split
  next => exact steady_observeResponse hq
  next => exact steady_of_eq rfl rfl rfl
  next => exact steady_of_eq rfl rfl rfl
  next => exact steady_observeOverfull hq fun _ => steady_of_eq rfl rfl rfl
  next => exact steady_observeDeadline hq fun _ => rfl
  next => exact absurd rfl hst
  next => exact steady_observeBusyCommand hq
  next => exact .rests hq

/-- What a signal leads to leaves the detector alone, counts its interval anew, or forgets the
probe. -/
theorem Firing.steady {signal : Signal} {p : Progress} (hf : c.Firing now signal p) :
    c.Steady now p.next := by
  have hquiet : p.next.position.isQuiet = true := by
    rcases hf.position_cases with hp | ⟨hp, -⟩ <;> rw [hp] <;> rfl
  have hstays (hc : p.next.config = c.config) (hk : p.next.keepAlive = c.keepAlive) :
      c.Steady now p.next := steady_of_eq hc hk hquiet
  have htouch (hc : p.next.config = c.config) (hk : p.next.keepAlive = c.keepAlive.touch now) :
      c.Steady now p.next :=
    ⟨hc, hk ▸ c.keepAlive.goes_touch now, .inl (by rw [hk]; rfl), hquiet⟩
  have hclear (hc : p.next.config = c.config) (hk : p.next.keepAlive = c.keepAlive.clearProbe) :
      c.Steady now p.next :=
    ⟨hc, hk ▸ c.keepAlive.goes_clearProbe now, .inr (by rw [hk]; rfl), hquiet⟩
  cases hf with
  | rests => exact hstays rfl rfl
  | readsOn => exact hstays (by rw [next_moveTo]; rfl) (by rw [next_moveTo]; rfl)
  | connects =>
      apply hclear <;> rw [Progress.next_andThen, next_moveTo] <;> rfl
  | settles =>
      apply htouch <;> rw [Progress.next_andThen, next_moveTo] <;> rfl
  | settlesBusy =>
      apply htouch <;> simp [next_moveTo, establish, touch, attend]
  | dispatches =>
      apply hstays <;> simp [next_moveTo, attend]
  | awaits | drops =>
      apply htouch <;> rw [Progress.next_andThen, Progress.next_andThen, next_moveTo] <;> rfl
  | delivers =>
      apply htouch <;> simp [next_moveTo, attend, absorb, touch]
  | responds =>
      apply hstays <;> simp [next_moveTo, attend]
  | fails =>
      apply hclear <;> simp [next_moveTo, attend]
  | closes =>
      apply hclear <;> rw [Progress.next_andThen, next_moveTo] <;> rfl

/-! ### Turns that take a tick, and turns with a probe -/

/-- A step after which the connection is about to be failed for idleness, as it should be. -/
theorem idleStep_of_condemns {span : Duration} (hcond : Turn.Condemns ⟨c, now, stimulus⟩ c.status)
    (hi : c.Intact) (hc : d.config = c.config) (hgoes : c.keepAlive.Goes now d.keepAlive)
    (hk : d.keepAlive.probeSentAt = c.keepAlive.probeSentAt)
    (hp : d.position = .signalled (.idle span)) : Turn.IdleStep ⟨c, now, stimulus⟩ d where
  config_eq := hc
  goes := hgoes
  probe tick hd := by
    simp only [probe?, hp, hk] at hd
    exact .inl (probe?_of_probeSentAt hi hd)
  idle _ _ := hcond

/-- A step that ends in idleness with a tick that is not taken. -/
theorem idleStep_of_idle {span : Duration} (hcond : Turn.Condemns ⟨c, now, stimulus⟩ c.status)
    (hi : c.Intact) (hc : d.config = c.config) (hk : d.keepAlive = c.keepAlive)
    (hp : d.position = .signalled (.idle span)) :
    Turn.IdleStep ⟨c, now, stimulus⟩ d :=
  idleStep_of_condemns hcond hi hc (hk ▸ .refl now _) (by rw [hk]) hp

/-- A step that begins a probe. -/
theorem idleStep_of_begins (hb : Turn.Begins ⟨c, now, stimulus⟩ tick) (hc : d.config = c.config)
    (hgoes : c.keepAlive.Goes now d.keepAlive) (hd : d.probe? = some tick)
    (hp : ∀ span, d.position ≠ .signalled (.idle span)) : Turn.IdleStep ⟨c, now, stimulus⟩ d where
  config_eq := hc
  goes := hgoes
  probe other hother := by
    obtain rfl : tick = other := Option.some.inj (hd.symm.trans hother)
    exact .inr hb
  idle span hspan := absurd hspan (hp span)

/-- A tick while a payload is written or a response is awaited. -/
theorem idleStep_observeBusyTick (h : c.Sound) (ht : c.Tuned)
    (hs : c.status = .writing ∨ c.status = .waiting) (hq : c.position.isQuiet = true) :
    Turn.IdleStep ⟨c, now, .tick⟩ (c.observeBusyTick now).next := by
  unfold observeBusyTick
  split
  · exact (Steady.rests hq).idleStep (.inl h)
  next hlt =>
    have hdue : c.keepAlive.due ≤ now := Nat.le_of_not_lt hlt
    obtain htick | ⟨keepAlive, htick, hgoes, hk⟩ := KeepAlive.tick?_of_due hdue <;>
      simp only [htick]
    · exact (steady_crash (.refl now _)).idleStep (.inl h)
    generalize hd : KeepAlive.check? _ _ _ _ _ = decision
    rcases decision with _ | _ | _ | span
    · exact (steady_crash hgoes).idleStep (.inl h)
    · exact Steady.idleStep ⟨rfl, hgoes, .inl hk, hq⟩ (.inl h)
    · exact Steady.idleStep ⟨rfl, hgoes, .inl hk, hq⟩ (.inl h)
    · refine idleStep_of_condemns (.stuck _ rfl hs hdue ?_) (.inl h) rfl hgoes hk rfl
      have hbusy : keepAlive.checkBusy? (c.keepAlive.due.since c.lastActivity) =
          some (.expired span) := by
        rcases hs with hs | hs <;> rw [hs] at hd <;> exact hd
      have hle := KeepAlive.le_of_checkBusy? hbusy
      rwa [hgoes.idleTime_eq, hgoes.interval_eq, ht.idleTime_eq, ht.interval_eq] at hle

/-- A probe is begun at a tick that is taken. -/
theorem idleStep_beginProbe {keepAlive : KeepAlive} (h : c.Sound) (hs : c.status = .free)
    (hb : Turn.Begins ⟨c, now, stimulus⟩ tick) (hgoes : c.keepAlive.Goes now keepAlive) :
    Turn.IdleStep ⟨c, now, stimulus⟩ ({ c with keepAlive }.beginProbe now tick).next := by
  have hsocket : c.socket.isSome = true := h.socket_iff.2 (by rw [hs]; rfl)
  unfold beginProbe
  split
  next hprobe =>
    have hsome := hb.canProbe
    rw [show c.codec.probe = none from hprobe] at hsome
    cases hsome
  next hnone =>
    rw [show c.socket = none from hnone] at hsocket
    cases hsocket
  next probe _ _ _ =>
    split
    · obtain ⟨block, -, heq⟩ := { c with keepAlive }.completeProbe_eq probe tick
      rw [heq]
      exact idleStep_of_begins hb rfl (hgoes.probeSent tick) rfl nofun
    · exact idleStep_of_begins hb rfl hgoes rfl nofun

/-- A tick while free. -/
theorem idleStep_observeFreeTick (h : c.Sound) (ht : c.Tuned) (hp : c.position = .parked .free)
    (hs : c.status = .free) : Turn.IdleStep ⟨c, now, .tick⟩ (c.observeFreeTick now).next := by
  have hq : c.position.isQuiet = true := by rw [hp]; rfl
  unfold observeFreeTick
  split
  · exact (Steady.rests hq).idleStep (.inl h)
  next hlt =>
    have hdue : c.keepAlive.due ≤ now := Nat.le_of_not_lt hlt
    obtain htick | ⟨keepAlive, htick, hgoes, hk⟩ := KeepAlive.tick?_of_due hdue <;>
      simp only [htick]
    · exact (steady_crash (.refl now _)).idleStep (.inl h)
    generalize hd : KeepAlive.check? _ _ _ _ _ = decision
    rcases decision with _ | _ | _ | span
    · cases hd
    · exact Steady.idleStep ⟨rfl, hgoes, .inl hk, hq⟩ (.inl h)
    · obtain ⟨hnone, hidle, hprobe⟩ :=
        KeepAlive.of_checkFree_eq_probe (Option.some.inj hd)
      rw [hgoes.idleTime_eq, ht.idleTime_eq] at hidle
      refine idleStep_beginProbe h hs ⟨rfl, hp, rfl, hdue, hidle, ?_, hprobe⟩ hgoes
      simpa only [probe?, hp] using hk.symm.trans hnone
    · have hcond : Turn.Condemns ⟨c, now, .tick⟩ c.status := by
        rw [hs]
        obtain ⟨sent, hsent, hle⟩ | ⟨hidle, hprobe⟩ :=
          KeepAlive.of_checkFree_eq_expired (Option.some.inj hd)
        · rw [hgoes.interval_eq, ht.interval_eq] at hle
          exact .overdue sent rfl hp (hk.symm.trans hsent) hdue hle
        · rw [hgoes.idleTime_eq, ht.idleTime_eq] at hidle
          exact .unprobed rfl hp hdue (by simpa using hprobe) hidle
      exact idleStep_of_condemns hcond (.inl h) rfl hgoes hk rfl

/-- Bytes that may answer a probe. -/
theorem idleStep_observeAnswer {bytes : Bytes} (h : c.Sound) (hp : c.position = .parked .free)
    (hs : c.status = .free) (hk : c.keepAlive.isProbing = true) :
    Turn.IdleStep ⟨c, now, .received bytes⟩ (c.observeAnswer now bytes).next := by
  have hfails {d : Connection} (hanswer : Turn.Unanswered ⟨c, now, .received bytes⟩)
      (hc : d.config = c.config) (hkeep : d.keepAlive = c.keepAlive)
      (hd : d.position = .signalled (.idle (c.idleFor now))) :
      Turn.IdleStep ⟨c, now, .received bytes⟩ d := by
    refine idleStep_of_idle ?_ (.inl h) hc hkeep hd
    rw [hs]
    exact .unanswered hp hk hanswer
  unfold observeAnswer
  simp only
  split
  · exact (Steady.rests (by rw [hp]; rfl)).idleStep (.inl h)
  · split
    next =>
      obtain ⟨block, -, heq⟩ := (c.receive (bytes.take c.block.room)).parkFree_eq
      rw [heq]
      exact Steady.idleStep (steady_of_eq rfl rfl rfl) (.inl h)
    next length hv =>
      split
      · simp only [Progress.next_andThen, proceed_eq]
        refine Steady.idleStep ⟨rfl, ⟨rfl, rfl, .inr (.inl rfl)⟩, .inr rfl, ?_⟩ (.inl h)
        simp only
        split <;> rfl
      next hl => exact hfails (.trailing bytes length rfl hv hl) rfl rfl rfl
    next fault hv => exact hfails (.malformed bytes fault rfl hv) rfl rfl rfl

/-- Something happens while free. -/
theorem idleStep_observeFree (h : c.Sound) (ht : c.Tuned) (hp : c.position = .parked .free)
    (hs : c.status = .free) :
    Turn.IdleStep ⟨c, now, stimulus⟩ (c.observeFree now stimulus).next := by
  have hq : c.position.isQuiet = true := by rw [hp]; rfl
  have hrests : Turn.IdleStep ⟨c, now, stimulus⟩ c := (Steady.rests hq).idleStep (.inl h)
  have hnone (hk : c.keepAlive.isProbing = true) (hanswer : Turn.Unanswered ⟨c, now, stimulus⟩)
      (fault : ProtocolFault) :
      Turn.IdleStep ⟨c, now, stimulus⟩ (c.observeNoAnswer now fault).next := by
    refine idleStep_of_idle ?_ (.inl h) rfl rfl rfl
    rw [hs]
    exact .unanswered hp hk hanswer
  unfold observeFree
  split
  next => exact (steady_observeFreeCommand hq).idleStep (.inl h)
  next => exact idleStep_observeFreeTick h ht hp hs
  next =>
    split
    next hk => exact idleStep_observeAnswer h hp hs hk
    next => exact hrests
  next =>
    split
    next hk => exact hnone hk (.ended rfl) _
    next => exact hrests
  next error =>
    split
    next hk => exact hnone hk (.failed error rfl) _
    next => exact hrests
  next =>
    split
    next hk =>
      unfold observeOverfull
      split
      · exact hrests
      next fault hroom => exact hnone hk (.overfull fault rfl hroom) fault
    next => exact hrests
  next => exact hrests

/-- Something happens while a probe is sent. -/
theorem idleStep_observeProbing {probe unsent : Bytes} {sentAt expiry : Instant} (h : c.Sound)
    (hp : c.position = .parked (.probing probe unsent sentAt expiry)) :
    Turn.IdleStep ⟨c, now, stimulus⟩
      (c.observeProbing now probe unsent sentAt expiry stimulus).next := by
  have hs : c.status = .free := (h.fits_at hp).1
  -- The probe that is sent is the one that is outstanding afterwards.
  have hgoesOn {d : Connection} (hc : d.config = c.config)
      (hgoes : c.keepAlive.Goes now d.keepAlive) (hd : d.probe? = some sentAt)
      (hn : ∀ span, d.position ≠ .signalled (.idle span)) : Turn.IdleStep ⟨c, now, stimulus⟩ d :=
    { config_eq := hc, goes := hgoes
      probe := fun tick htick => .inl (by simpa only [probe?, hp] using hd.symm.trans htick)
      idle := fun span hspan => absurd hspan (hn span) }
  have hrests : Turn.IdleStep ⟨c, now, stimulus⟩ c :=
    hgoesOn rfl (.refl now _) (by simp only [probe?, hp]) fun span => by rw [hp]; nofun
  have hfails (error : ConnectionError)
      (hst : (∃ error, stimulus = .writeFailed error) ∨ stimulus = .probeExpired ∧ expiry ≤ now) :
      Turn.IdleStep ⟨c, now, stimulus⟩ (c.failProbe now error).next := by
    refine idleStep_of_idle ?_ (.inl h) rfl rfl rfl
    rw [hs]
    exact .unsent probe unsent sentAt expiry hp hst
  unfold observeProbing
  split
  next count =>
    simp only [Progress.next_andThen]
    split
    · obtain ⟨block, -, heq⟩ := c.completeProbe_eq probe sentAt
      rw [show (c.transmit unsent count).next = c from rfl, heq]
      exact hgoesOn rfl ((KeepAlive.Goes.refl now _).probeSent sentAt) rfl nofun
    · exact hgoesOn rfl (.refl now _) rfl nofun
  next error => exact hfails _ (.inl ⟨error, rfl⟩)
  next =>
    split
    · exact hrests
    next hlt => exact hfails _ (.inr ⟨rfl, Nat.le_of_not_lt hlt⟩)
  next => exact hrests

/-! ### Every turn -/

/-- Something happens in a phase. -/
theorem idleStep_observe {phase : Phase} (h : c.Sound) (ht : c.Tuned)
    (hp : c.position = .parked phase) :
    Turn.IdleStep ⟨c, now, stimulus⟩ (c.observe now phase stimulus).next := by
  have hfits := h.fits_at hp
  unfold observe
  cases phase with
  | idle =>
      have hq : c.position.isQuiet = true := by rw [hp]; rfl
      simp only
      split
      · exact (steady_observeIdleCommand hq).idleStep (.inl h)
      · exact (Steady.rests hq).idleStep (.inl h)
  | connecting since => exact (steady_observeConnecting (by rw [hp]; rfl)).idleStep (.inl h)
  | free => exact idleStep_observeFree h ht hp hfits
  | probing probe unsent sentAt expiry => exact idleStep_observeProbing h hp
  | writing unsent =>
      have hq : c.position.isQuiet = true := by rw [hp]; rfl
      by_cases hst : stimulus = .tick
      · subst hst
        exact idleStep_observeBusyTick h ht (.inl hfits) hq
      · exact (steady_observeWriting hq hst).idleStep (.inl h)
  | waiting =>
      have hq : c.position.isQuiet = true := by rw [hp]; rfl
      by_cases hst : stimulus = .tick
      · subst hst
        exact idleStep_observeBusyTick h ht (.inr hfits) hq
      · exact (steady_observeWaiting hq hst).idleStep (.inl h)

end Connection

/-- **Every turn does no more than that**: it begins a probe only when the connection has been idle
for long enough, and leads to a failure only when it has been idle for too long. -/
theorem Turn.idleStep (t : Turn) (h : t.connection.Intact) (ht : t.connection.Tuned) :
    t.IdleStep t.progress.next := by
  obtain ⟨c, now, stimulus⟩ := t
  rcases h with h | h
  · unfold progress Connection.turn
    simp only
    cases hp : c.position with
    | spawned => exact (Connection.steady_start ht).idleStep (.inl h)
    | entering => exact (Connection.steady_enter h).idleStep (.inl h)
    | parked phase => exact Connection.idleStep_observe h ht hp
    | signalled signal => exact (Connection.firing (h.fits_at hp)).steady.idleStep (.inl h)
    | finished => exact (Connection.Steady.rests (by rw [hp]; rfl)).idleStep (.inl h)
    | overflowed => exact (Connection.steady_crash (.refl now _)).idleStep (.inl h)
    | crashed => exact absurd hp h.position_ne
  · have hp : c.position.isQuiet = true := by rw [h.position_eq]; rfl
    unfold progress
    rw [h.turn_eq]
    exact (Connection.Steady.rests hp).idleStep (.inr h)

end Uplink
