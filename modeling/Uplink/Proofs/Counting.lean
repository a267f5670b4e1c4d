/-
What a turn of the task counts.

The counters grow at many places: when the status changes, when a socket is there, when a write is
resolved, when bytes are sent or received.  A turn does at most one piece of work, so that what it
counts can be compared with what it does: with the writes that it ends, with the outcomes that it
tells, with the bytes that it completes.

* `Uplink.Connection.Counted` — what a turn counts of writes, connects, timeouts, and bytes;
* `Uplink.Connection.Delivered` — what it counts of the writes that it delivers;
* `Uplink.Connection.Measured` — the length that a turn is about to count is that of the payload
  in flight.
* `Uplink.Connection.dropped`, `Uplink.Connection.abandoned` — the writes that go with a task that
  is stopped, and those that are left behind when nobody is left.

**Every turn counts what it does** (`Uplink.Connection.Intact.counted`,
`Uplink.Connection.Intact.delivered`).
-/

import Mathlib.Algebra.GroupWithZero.Nat
import Uplink.Proofs.Record
import Uplink.Proofs.Handling

set_option relaxedAutoImplicit false
set_option autoImplicit false

namespace Uplink

/-- The write was delivered. -/
def Outcome.isDelivered : Outcome → Bool
  | delivered _ => true
  | undelivered _ => false

/-- The write was delivered, and answered. -/
def Outcome.isAnswered : Outcome → Bool
  | delivered delivery => delivery.response.isSome
  | undelivered _ => false

/-- One while a connect is awaited. -/
@[simp] def Status.dialling (status : Status) : Nat := if status = .connecting then 1 else 0

/-- One while there is a socket. -/
@[simp] def Status.joined (status : Status) : Nat := if status.isConnected then 1 else 0

/-- One when a connect that is awaited is cut off by a close. -/
@[simp] def Status.cutOff (source target : Status) : Nat :=
  if source = .connecting ∧ target = .stopped then 1 else 0

/-- The writes that were delivered, failed or cancelled. -/
@[simp] def Counters.ended (c : Counters) : Nat :=
  c.writesSucceeded + c.writesFailed + c.writesCancelled

namespace Connection

variable {c : Connection} {now : Instant} {stimulus : Stimulus}

/-! ### What is counted -/

/-- The payload that is reported as completely written. -/
def completed (c : Connection) : List Bytes :=
  match c.position with
  | .signalled (.written _) => c.inFlight.toList.map (·.payload)
  | _ => []

/-- The probe that a step to the next state counts as sent: the one that was being sent, or one
without bytes. -/
def probed (c next : Connection) : List Bytes :=
  if next.counters.probesSent = c.counters.probesSent then []
  else
    match c.position with
    | .parked (.probing probe _ _ _) => [probe]
    | _ => c.codec.probe.toList

/-- The task is stopped, or about to be. -/
@[simp] def IsDoomed (c : Connection) : Prop := c.position = .crashed ∨ c.position = .overflowed

instance : Decidable c.IsDoomed := inferInstanceAs (Decidable (_ ∨ _))

/-- The write that goes with the task in a step to the next state. -/
@[simp] def dropped (c next : Connection) : List PendingWrite :=
  if next.IsDoomed ∧ next.inFlight = none then c.inFlight.toList else []

theorem dropped_of_inFlight {next : Connection} (h : next.inFlight = c.inFlight) :
    c.dropped next = [] := by
  simp +contextual [← h]

/-- Neither the task nor the owner is left. -/
@[simp] def IsLost (c : Connection) : Prop := c.position = .crashed ∧ c.isHeld = false

instance : Decidable c.IsLost := inferInstanceAs (Decidable (_ ∧ _))

/-- The writes that a step to the next state leaves behind: those that wait when the last of the
task and the owner goes. -/
@[simp] def abandoned (c next : Connection) : List PendingWrite :=
  if next.IsLost ∧ ¬c.IsLost then c.queue else []

theorem abandoned_of_imp {next : Connection} (h : next.IsLost → c.IsLost) :
    c.abandoned next = [] :=
  if_neg fun hlost => hlost.2 (h hlost.1)

/-- What a turn counts. -/
structure Counted (c : Connection) (p : Progress) : Prop where
  writes : p.next.counters.ended + p.next.queue.length + p.next.inFlight.toList.length +
    (c.dropped p.next).length + (c.abandoned p.next).length =
      c.counters.ended + c.queue.length + c.inFlight.toList.length
  connects : p.next.counters.connectAttempts + c.counters.connects + c.counters.connectFailures +
      c.status.dialling = c.counters.connectAttempts + p.next.counters.connects +
        p.next.counters.connectFailures + p.next.status.dialling + c.status.cutOff p.next.status
  idles : p.next.counters.idleTimeouts + p.next.status.joined + c.counters.connects ≤
    c.counters.idleTimeouts + c.status.joined + p.next.counters.connects
  probes : p.next.counters.probesSent = c.counters.probesSent + (c.probed p.next).length
  sent : p.next.counters.bytesSent = c.counters.bytesSent +
    (c.completed.map List.length).sum + ((c.probed p.next).map List.length).sum

/-- What a turn counts of the writes that it delivers. -/
structure Delivered (c : Connection) (p : Progress) : Prop where
  delivered : p.next.counters.writesSucceeded =
    c.counters.writesSucceeded + p.outcomes.countP (·.2.isDelivered)
  answered : p.next.counters.responses =
    c.counters.responses + p.outcomes.countP (·.2.isAnswered)

/-- The length that is reported for a payload is its own. -/
def Measured (c : Connection) : Prop :=
  ∀ bytes, c.position = .signalled (.written bytes) →
    c.inFlight.map (·.payload.length) = some bytes

/-! ### Turns that fire no signal -/

/-- The counters after a turn that fires no signal: bytes may have been received, and a probe
sent. -/
theorem Passing.counters_eq {p : Progress} (hp : c.Passing now stimulus p) :
    p.next.counters = { c.counters with
      bytesReceived := p.next.counters.bytesReceived
      probesSent := c.counters.probesSent + (c.probed p.next).length
      bytesSent := c.counters.bytesSent + ((c.probed p.next).map List.length).sum } := by
  cases hp with
  | crashes => simp [probed, next_crash]
  | settles =>
      obtain ⟨block, -, heq⟩ := c.parkFree_eq
      simp [probed, heq]
  | awaits =>
      obtain ⟨block, -, heq⟩ := c.makeRoom_eq
      simp [probed, heq, park]
  | probesLast probe unsent count tick expiry hp =>
      obtain ⟨block, -, heq⟩ := c.completeProbe_eq probe tick
      simp [probed, heq, hp, Counters.probed, Counters.sent]
  | probesAtOnce keepAlive tick hp hs hk hb =>
      obtain ⟨block, -, heq⟩ := { c with keepAlive }.completeProbe_eq [] tick
      rw [heq]
      simp [probed, hp, hb, Counters.probed, Counters.sent]
  | answersPart bytes =>
      obtain ⟨block, -, heq⟩ := (c.receive bytes).parkFree_eq
      rw [heq]
      simp [probed, receive, Counters.received]
  | _ =>
      simp [probed, receive, Counters.received, say, park, signal, finish, signalIdle, touch,
        endProbe, transmit]

theorem countP_undelivered {outcomes : List (Nat × Outcome)}
    (h : ∀ e ∈ outcomes, ∃ returned, e.2 = .undelivered returned) :
    outcomes.countP (·.2.isDelivered) = 0 ∧ outcomes.countP (·.2.isAnswered) = 0 := by
  constructor
  all_goals
    refine List.countP_eq_zero.2 fun e he => ?_
    obtain ⟨returned, heq⟩ := h e he
    simp [heq, Outcome.isDelivered, Outcome.isAnswered]

theorem Passing.delivered {p : Progress} (hp : c.Passing now stimulus p) : c.Delivered p := by
  have hcounters := hp.counters_eq
  obtain ⟨hdelivered, hanswered⟩ := countP_undelivered hp.undelivered
  constructor
  · rw [hcounters, hdelivered]
    rfl
  · rw [hcounters, hanswered]
    rfl

/-- A turn that fires no signal ends no write; at most it drops the write in flight, and leaves the
queue behind. -/
theorem Passing.present {p : Progress} (hp : c.Passing now stimulus p)
    (hf : c.position ≠ .crashed) :
    p.next.queue.length + (c.abandoned p.next).length = c.queue.length ∧
      p.next.inFlight.toList.length + (c.dropped p.next).length = c.inFlight.toList.length := by
  obtain h | ⟨keepAlive, rfl⟩ := hp.contained
  · have hflight : p.next.inFlight = c.inFlight := by rw [h.next_eq]
    rw [abandoned_of_imp fun hlost => absurd (h.crashed hlost.1) hf, dropped_of_inFlight hflight,
      h.next_eq]
    exact ⟨rfl, rfl⟩
  · rw [next_crash]
    -- A crash drops what waits only when the owner is gone as well.
    cases hheld : c.isHeld <;> simp [hf, hheld]

theorem Passing.counted {p : Progress} (hp : c.Passing now stimulus p)
    (hsig : c.position.isSignalled = false) (hf : c.position ≠ .crashed) : c.Counted p := by
  have hcounters := hp.counters_eq
  have hstatus := hp.settled.status_eq
  have hcompleted : c.completed = [] := by
    unfold completed
    split
    next h =>
      rw [h] at hsig
      cases hsig
    next => rfl
  obtain ⟨hqueue, hflight⟩ := hp.present hf
  constructor
  case writes =>
    rw [hcounters]
    simp only [Counters.ended]
    omega
  case connects =>
    rw [hcounters, hstatus]
    cases c.status <;> rfl
  case idles =>
    refine Nat.le_of_eq ?_
    rw [hcounters, hstatus]
  case probes => rw [hcounters]
  case sent =>
    rw [hcounters, hcompleted]
    rfl

/-- A turn without a task counts nothing. -/
theorem Wrecked.counted (h : c.Wrecked) : c.Counted ⟨c, []⟩ := by
  have hc : c.completed = [] := by
    unfold completed
    rw [h.position_eq]
  constructor
  case writes =>
    rw [dropped_of_inFlight rfl, abandoned_of_imp id]
    rfl
  all_goals simp +contextual [hc, probed]

/-! ### Turns that fire a signal -/

/-- A failure is counted by its class, and with it the write in flight. -/
theorem counters_handleFail (d : Connection) (error : ConnectionError) :
    (d.handleFail now (some error)).next.counters =
      if d.inFlight.isSome then (countFailure d.counters error).failed
      else countFailure d.counters error := by
  unfold handleFail failInFlight
  cases d.inFlight <;> rfl

/-- Only a connect that fails is counted as such, and only a socket that is idle. -/
theorem countFailure_cases {error : ConnectionError} (k : Counters)
    (hs : c.status = .connecting ∨ c.status = .free ∨ c.status.isBusy = true)
    (hk : error.kind = .connect ↔ c.status = .connecting) :
    c.status = .connecting ∧ countFailure k error = k.refused ∨
      c.status ≠ .connecting ∧ c.status.isConnected = true ∧
        (countFailure k error = k.idled ∨ countFailure k error = k) := by
  by_cases hc : c.status = .connecting
  · refine .inl ⟨hc, ?_⟩
    simp [countFailure, hk.2 hc]
  · refine .inr ⟨hc, ?_, ?_⟩
    · cases h : c.status <;> simp_all [Status.isBusy, Status.isConnected]
    · unfold countFailure
      split
      next hkind => exact absurd (hk.1 hkind) hc
      next => exact .inl rfl
      next => exact .inr rfl

theorem completed_of_ne {signal : Signal} (hp : c.position = .signalled signal)
    (hs : ∀ bytes, signal ≠ .written bytes) : c.completed = [] := by
  unfold completed
  split
  next bytes h =>
    rw [hp] at h
    cases h
    exact absurd rfl (hs bytes)
  next => rfl

theorem completed_of_written {w : PendingWrite} {bytes : Nat}
    (hp : c.position = .signalled (.written bytes)) (hw : c.inFlight = some w) :
    c.completed = [w.payload] := by
  simp [completed, hp, hw]

/-- A connection that fails counts the write that it gives up. -/
theorem Sound.counted_fails {signal : Signal} {error : ConnectionError} {event : Event}
    (h : c.Sound) (hc : c.completed = [])
    (hs : c.status = .connecting ∨ c.status = .free ∨ c.status.isBusy = true)
    (hk : error.kind = .connect ↔ c.status = .connecting) :
    c.Counted (((c.attend signal).moveTo .connectFailed event).andThen
      (·.handleFail now (some error))) := by
  have hflight := h.inFlight_iff
  have hmoved : .connectFailed ≠ c.status := by
    rintro hstatus
    rw [← hstatus] at hs
    simp [Status.isBusy] at hs
  have hcounters : (((c.attend signal).moveTo .connectFailed event).next.handleFail now
      (some error)).next.counters =
      if c.inFlight.isSome then (countFailure c.counters.moved error).failed
      else countFailure c.counters.moved error := by
    rw [counters_handleFail, next_moveTo]
    simp [attend, hmoved]
  have hqueue : ((c.attend signal).moveTo .connectFailed event).next.queue = c.queue := by
    rw [next_moveTo]
    rfl
  have hentering : ((c.attend signal).moveTo .connectFailed event).next.position =
      .entering := by
    rw [next_moveTo]
    rfl
  -- A connect that fails has no write to give up; any other failure gives up a socket.
  obtain ⟨hstatus, hcount⟩ | ⟨hdial, hjoin, hcount⟩ := countFailure_cases c.counters.moved hs hk
  · have hw : c.inFlight = none := by simpa [hstatus, Status.isBusy] using hflight
    rw [hcount] at hcounters
    constructor <;>
      simp [probed, hcounters, hw, hc, hqueue, hentering, hstatus, Status.isConnected,
        Counters.refused, Counters.moved]
    all_goals omega
  · have hleft : Status.connectFailed.isConnected = false := rfl
    rcases hcount with hcount | hcount <;> rw [hcount] at hcounters <;>
      cases hw : c.inFlight <;> constructor <;>
      simp [probed, hcounters, hw, hc, hqueue, hentering, hdial, hjoin, hleft,
        Counters.idled, Counters.failed, Counters.moved]
    all_goals omega

/-- A connection that closes counts every write that it cancels. -/
theorem counted_closes {waiter : Option Waiter} (hc : c.completed = []) (hs : c.status ≠ .stopped) :
    c.Counted (((c.attend (.close waiter)).moveTo .stopped .close).andThen (·.doClose)) := by
  cases hw : c.inFlight <;> constructor <;>
    simp [next_moveTo, attend, doClose, probed, hc, hw, hs.symm, Status.isConnected,
      Counters.cancelled, Counters.moved]
  all_goals omega

/-- **A turn that fires a signal counts what it does**: it counts a write as ended when it gives it
up, and a connect when it is told how that went. -/
theorem Firing.counted {signal : Signal} {p : Progress} (hf : c.Firing now signal p) (h : c.Sound)
    (hp : c.position = .signalled signal) (hm : c.Measured) : c.Counted p := by
  cases hf with
  | rests hr =>
      have hc : c.completed = [] := completed_of_ne hp (by rcases hr with rfl | ⟨rfl, -⟩ <;> simp)
      have hs : c.status = .free := Signal.Fits.status_of_rests (h.fits_at hp) hr
      constructor <;> simp [attend, hc, probed, hs]
  | readsOn hs =>
      have hc : c.completed = [] := completed_of_ne hp (by simp)
      rw [moveTo_of_eq (c := c.attend .incomplete) hs.symm]
      constructor <;> simp [attend, hc, probed, hs]
  | connects hs =>
      have hc : c.completed = [] := completed_of_ne hp (by simp)
      rcases hs with hs | hs | hs <;> constructor <;>
        simp [next_moveTo, attend, startConnect, hc, probed, hs, Status.isConnected,
          Counters.attempted, Counters.moved]
      all_goals omega
  | settles link took hs hq =>
      have hc : c.completed = [] := completed_of_ne hp (by simp)
      obtain ⟨-, hidle⟩ := h.idle (by rw [hs]; rfl)
      cases hroom : c.keepAlive.hasRoom now <;> constructor <;>
        simp [next_moveTo, attend, establish, touch, hc, probed, hs, Status.isConnected,
          Counters.connected, Counters.moved, hidle, hroom]
      all_goals omega
  | settlesBusy link took hs hq =>
      have hc : c.completed = [] := completed_of_ne hp (by simp)
      obtain ⟨w, rest, hq⟩ := List.exists_cons_of_ne_nil hq
      -- What is dispatched leaves the queue and is in flight from then on.
      obtain ⟨-, hidle⟩ := h.idle (by rw [hs]; rfl)
      cases hroom : c.keepAlive.hasRoom now <;> constructor <;>
        simp [next_moveTo, attend, establish, touch, beginWrite, hc, probed, hs, Status.isConnected,
          Counters.connected, Counters.moved, hq, hidle, hroom]
      all_goals omega
  | dispatches hs hq =>
      have hc : c.completed = [] := completed_of_ne hp (by simp)
      obtain ⟨w, rest, hq⟩ := List.exists_cons_of_ne_nil hq
      obtain ⟨-, hidle⟩ := h.idle (by rw [hs]; rfl)
      constructor <;>
        simp [next_moveTo, attend, beginWrite, hc, probed, hs, Status.isConnected,
          Counters.moved, hq, hidle]
      all_goals omega
  | awaits bytes hs he =>
      obtain ⟨w, hw⟩ := h.exists_inFlight (by rw [hs]; rfl)
      have hc := completed_of_written hp hw
      have hlength : w.payload.length = bytes := by simpa [hw] using hm bytes hp
      cases hroom : c.keepAlive.hasRoom now <;> constructor <;>
        simp [next_moveTo, attend, absorb, touch, probed, hs, Status.isConnected, hc, hlength, hw,
          hroom, Counters.sent, Counters.moved]
  | delivers bytes hs he hroom =>
      obtain ⟨w, hw⟩ := h.exists_inFlight (by rw [hs]; rfl)
      have hc := completed_of_written hp hw
      have hlength : w.payload.length = bytes := by simpa [hw] using hm bytes hp
      constructor <;>
        simp [next_moveTo, attend, absorb, touch, resolve, probed, hs, Status.isConnected, hc,
          hlength, hw, hroom, Counters.sent, Counters.moved, Counters.delivered]
      all_goals omega
  | drops bytes hs he hroom =>
      obtain ⟨w, hw⟩ := h.exists_inFlight (by rw [hs]; rfl)
      have hc := completed_of_written hp hw
      have hlength : w.payload.length = bytes := by simpa [hw] using hm bytes hp
      constructor <;>
        simp [next_moveTo, attend, absorb, touch, dropInFlight, probed, hs, Status.isConnected, hc,
          hlength, hw, hroom, Counters.sent, Counters.moved]
  | responds length hs =>
      obtain ⟨w, hw⟩ := h.exists_inFlight (by rw [hs]; rfl)
      have hc : c.completed = [] := completed_of_ne hp (by simp)
      constructor <;>
        simp [next_moveTo, attend, resolve, probed, hs, Status.isConnected, hc, hw,
          Counters.responded, Counters.moved, Counters.delivered]
      all_goals omega
  | fails _ error event herror hs hk =>
      exact h.counted_fails
        (completed_of_ne hp (by rintro bytes rfl; cases herror)) hs hk
  | closes waiter hs => exact counted_closes (completed_of_ne hp (by simp)) hs

/-- What two pieces of work count one after the other. -/
theorem Delivered.andThen {p : Progress} {f : Connection → Progress} (h : c.Delivered p)
    (hf : p.next.Delivered (f p.next)) : c.Delivered (p.andThen f) where
  delivered := by
    rw [Progress.next_andThen, hf.delivered, h.delivered, Progress.outcomes_andThen,
      List.countP_append, Nat.add_assoc]
  answered := by
    rw [Progress.next_andThen, hf.answered, h.answered, Progress.outcomes_andThen,
      List.countP_append, Nat.add_assoc]

theorem Delivered.of_undelivered {p : Progress}
    (hd : p.next.counters.writesSucceeded = c.counters.writesSucceeded)
    (ha : p.next.counters.responses = c.counters.responses)
    (ho : ∀ e ∈ p.outcomes, ∃ returned, e.2 = .undelivered returned) : c.Delivered p := by
  obtain ⟨hdelivered, hanswered⟩ := countP_undelivered ho
  exact ⟨by rw [hd, hdelivered]; rfl, by rw [ha, hanswered]; rfl⟩

theorem Delivered.of_nil {p : Progress}
    (hd : p.next.counters.writesSucceeded = c.counters.writesSucceeded)
    (ha : p.next.counters.responses = c.counters.responses) (ho : p.outcomes = []) :
    c.Delivered p :=
  .of_undelivered hd ha (by rw [ho]; nofun)

section

variable (d : Connection)

theorem delivered_moveTo (signal : Signal) (target : Status) (event : Event) :
    d.Delivered ((d.attend signal).moveTo target event) := by
  refine .of_nil ?_ ?_ (by simp) <;> unfold moveTo <;> split <;> rfl

theorem delivered_startConnect : d.Delivered (d.startConnect now) := .of_nil rfl rfl (by simp)

theorem delivered_establish (link : Link) (took : Duration) :
    d.Delivered (d.establish now link took) := .of_nil rfl rfl (by simp)

theorem delivered_beginWrite : d.Delivered ⟨d.beginWrite now, []⟩ := by
  unfold beginWrite
  cases d.queue <;> exact .of_nil rfl rfl rfl

theorem delivered_written (bytes : Nat) : d.Delivered (d.absorb now (.written bytes)) :=
  .of_nil rfl rfl rfl

/-- A write that is resolved counts as delivered, and with a response as answered. -/
theorem delivered_resolve {w : PendingWrite} (hw : d.inFlight = some w)
    (response? : Option Nat) : d.Delivered (d.resolve now response?) := by
  have ho : (d.resolve now response?).outcomes =
      [(w.ticket, w.delivered now (response?.map d.block.takeFrame))] := by simp [hw]
  constructor <;> rw [ho] <;> unfold resolve <;> cases response? <;>
    simp [hw, PendingWrite.delivered, Outcome.isDelivered, Outcome.isAnswered, Counters.delivered,
      Counters.responded]

/-- A write that goes with the task is not counted. -/
theorem delivered_dropInFlight : d.Delivered d.dropInFlight := by
  refine .of_undelivered rfl rfl fun e he => ?_
  rw [outcomes_dropInFlight] at he
  obtain ⟨w, -, rfl⟩ := List.mem_map.1 he
  exact ⟨_, rfl⟩

theorem delivered_handleFail (error : ConnectionError) :
    d.Delivered (d.handleFail now (some error)) := by
  have hcount (k : Counters) : (countFailure k error).writesSucceeded = k.writesSucceeded ∧
      (countFailure k error).responses = k.responses := by
    unfold countFailure
    split <;> exact ⟨rfl, rfl⟩
  refine .of_undelivered ?_ ?_ fun e he => ?_
  · rw [counters_handleFail]
    split <;> exact (hcount _).1
  · rw [counters_handleFail]
    split <;> exact (hcount _).2
  · rw [outcomes_handleFail] at he
    obtain ⟨w, -, rfl⟩ := List.mem_map.1 he
    exact ⟨_, rfl⟩

theorem delivered_doClose : d.Delivered d.doClose := by
  refine .of_undelivered rfl rfl fun e he => ?_
  rw [outcomes_doClose] at he
  obtain ⟨w, -, rfl⟩ := List.mem_map.1 he
  exact ⟨_, rfl⟩

end

/-- What a turn that fires a signal counts of the writes that it delivers. -/
theorem Firing.delivered {signal : Signal} {p : Progress} (hf : c.Firing now signal p)
    (h : c.Sound) : c.Delivered p := by
  have hflight {d : Connection} (hs : c.status.isBusy = true) (hd : d.inFlight = c.inFlight) :
      ∃ w, d.inFlight = some w := by
    rw [hd]
    exact h.exists_inFlight hs
  cases hf with
  | rests => exact ⟨rfl, rfl⟩
  | readsOn => exact delivered_moveTo _ _ _ _
  | connects => exact (delivered_moveTo _ _ _ _).andThen (delivered_startConnect _)
  | settles => exact (delivered_moveTo _ _ _ _).andThen (delivered_establish _ _ _)
  | settlesBusy =>
      exact ((delivered_moveTo _ _ _ _).andThen (delivered_establish _ _ _)).andThen
        (delivered_beginWrite _)
  | dispatches => exact (delivered_moveTo _ _ _ _).andThen (delivered_beginWrite _)
  | awaits =>
      exact ((delivered_moveTo _ _ _ _).andThen (delivered_written _ _)).andThen
        (.of_nil rfl rfl rfl)
  | delivers bytes hs =>
      refine ((delivered_moveTo _ _ _ _).andThen (delivered_written _ _)).andThen ?_
      obtain ⟨w, hw⟩ := hflight (d := (((c.attend (.written bytes)).moveTo .free
        (.writeComplete false)).andThen (·.absorb now (.written bytes))).next)
        (by rw [hs]; rfl) (by rw [Progress.next_andThen, next_moveTo]; rfl)
      exact delivered_resolve _ hw none
  | drops =>
      exact ((delivered_moveTo _ _ _ _).andThen (delivered_written _ _)).andThen
        (delivered_dropInFlight _)
  | responds length hs =>
      refine (delivered_moveTo _ _ _ _).andThen ?_
      obtain ⟨w, hw⟩ := hflight
        (d := ((c.attend (.frame length)).moveTo .free .frameComplete).next)
        (by rw [hs]; rfl) (by rw [next_moveTo]; rfl)
      exact delivered_resolve _ hw (some length)
  | fails => exact (delivered_moveTo _ _ _ _).andThen (delivered_handleFail _ _)
  | closes => exact (delivered_moveTo _ _ _ _).andThen (delivered_doClose _)

/-- A connect that is cut off by a close is told as a change of the status. -/
theorem Changing.count_eq {p : Progress} (h : c.Changing p) :
    p.changes.count (.connecting, .stopped) = c.status.cutOff p.next.status := by
  cases h with
  | stays hs hw hk hc =>
      have hne : ¬(c.status = .connecting ∧ c.status = .stopped) := by
        rintro ⟨hc, hs⟩
        rw [hc] at hs
        cases hs
      rw [hc, hs, Status.cutOff, if_neg hne, List.count_nil]
  | moves target hne hlive hs hw hk hc =>
      rw [hc, hs, List.count_singleton, Status.cutOff]
      simp

/-! ### Every turn -/

theorem Passing.measured {p : Progress} (hp : c.Passing now stimulus p) (h : c.Sound)
    (hm : c.Measured) : p.next.Measured := by
  intro bytes hbytes
  cases hp with
  | sendsLast unsent count length hpos hs hr hb =>
      cases hbytes
      obtain ⟨w, hw⟩ := h.exists_inFlight (by rw [hs]; rfl)
      change c.inFlight.map (·.payload.length) = some bytes
      simp [hb, hw]
  | rests | swallows | plans => exact hm bytes hbytes
  | readsBeyond bytes _ _ _ hroom =>
      cases (position_touch_of_hasRoom (c := c.receive bytes) hroom).symm.trans hbytes
  | answersBeyond bytes _ _ _ _ hroom =>
      cases (position_endProbe_of_hasRoom (c := c.receive bytes) hroom).symm.trans hbytes
  | fails signal deadline keepAlive notices herror =>
      cases hbytes
      cases herror
  | obeys phase command => cases command <;> cases hbytes
  | reads =>
      obtain ⟨hv, -⟩ | ⟨hv, -⟩ | ⟨fault, hv⟩ := ((c.receive _).touch now).verdict_cases
      all_goals
        rw [hv] at hbytes
        cases hbytes
  | crashes =>
      rw [next_crash] at hbytes
      cases hbytes
  | settles =>
      obtain ⟨block, -, heq⟩ := c.parkFree_eq
      rw [heq] at hbytes
      cases hbytes
  | probesLast probe unsent count tick =>
      obtain ⟨block, -, heq⟩ := c.completeProbe_eq probe tick
      rw [Progress.next_andThen, next_transmit, heq] at hbytes
      cases hbytes
  | probesAtOnce keepAlive tick =>
      obtain ⟨block, -, heq⟩ := { c with keepAlive }.completeProbe_eq [] tick
      rw [heq] at hbytes
      cases hbytes
  | answersPart bytes =>
      obtain ⟨block, -, heq⟩ := (c.receive bytes).parkFree_eq
      rw [heq] at hbytes
      cases hbytes
  | _ => cases hbytes

/-- A turn reports the length of the payload in flight, and no other. -/
theorem Intact.measured (h : c.Intact) (hm : c.Measured) (now : Instant) (stimulus : Stimulus) :
    (c.turn now stimulus).next.Measured := by
  obtain ⟨-, hp⟩ | ⟨signal, -, -, hf⟩ := turn_cases now stimulus h.fits
  · rcases h with h | h
    · exact hp.measured h hm
    · intro bytes hbytes
      rw [h.turn_eq] at hbytes ⊢
      exact hm bytes hbytes
  · exact fun bytes hbytes => absurd hbytes hf.position_ne

/-- What a turn counts, whatever it does. -/
theorem Intact.counted (h : c.Intact) (hm : c.Measured) (now : Instant) (stimulus : Stimulus) :
    c.Counted (c.turn now stimulus) := by
  obtain ⟨hsig, hp⟩ | ⟨signal, hpos, -, hf⟩ := turn_cases now stimulus h.fits
  · rcases h with h | h
    · exact hp.counted hsig h.position_ne
    · rw [h.turn_eq]
      exact h.counted
  · exact hf.counted (h.sound (by rw [hpos]; nofun)) hpos hm

theorem Intact.delivered (h : c.Intact) (now : Instant) (stimulus : Stimulus) :
    c.Delivered (c.turn now stimulus) := by
  obtain ⟨-, hp⟩ | ⟨signal, hpos, -, hf⟩ := turn_cases now stimulus h.fits
  · exact hp.delivered
  · exact hf.delivered (h.sound (by rw [hpos]; nofun))

end Connection

end Uplink
