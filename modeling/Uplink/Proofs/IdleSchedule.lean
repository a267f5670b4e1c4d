/-
When an idle connection is given up.

The detector ticks at whole intervals after the last activity, so that all its decisions depend on
the number of the tick alone.  Let the idle time take so many intervals, the last one perhaps not as
a whole.  A free connection is left alone until then; it is probed at that tick, or given up if it
cannot be probed, and the next tick gives it up when the probe is not answered.  A busy connection
is left alone until that same next tick.

* `Uplink.KeepAlive.span`, `Uplink.KeepAlive.patience` — a number of intervals, and the number of
  those that the idle time takes;
* `Uplink.KeepAlive.check?_free_span`, `Uplink.KeepAlive.check?_probing_span`,
  `Uplink.KeepAlive.check?_busy_span` — the decision at a tick, by its number;
* `Uplink.Connection.ticked`, `Uplink.Connection.accepting` — ticks and pieces of a probe, one after
  the other;
* `Uplink.Connection.GivesUp` — the connection is about to fail, idle for so long;
* `Uplink.Connection.planning`, `Uplink.Connection.ticked_eq` — **as long as the decision is to do
  nothing, nothing happens but that the next tick is planned**;
* `Uplink.Connection.Probed` — what a probe leaves behind that is sent in time.

Main result: `Uplink.Scene.idle_schedule`.
-/

import Mathlib.Algebra.Order.Floor.Div
import Uplink.Proofs.Failing
import Uplink.Proofs.Idleness

set_option relaxedAutoImplicit false
set_option autoImplicit false

namespace Uplink

/-! ### The decision at a tick -/

namespace KeepAlive

variable {k : KeepAlive}

/-- So many intervals. -/
def span (k : KeepAlive) (n : Nat) : Duration := ⟨n * k.interval.ns⟩

/-- The intervals that the idle time takes, the last one perhaps not as a whole. -/
def patience (k : KeepAlive) : Nat := k.idleTime.ns ⌈/⌉ k.interval.ns

/-- The detector after a tick that was taken when it was due. -/
def onward (k : KeepAlive) : KeepAlive := { k with due := k.due.after k.interval }

theorem tick?_due (k : KeepAlive) : k.tick? k.due = some (k.due, k.onward) := by
  have hearly : ¬k.due.after tolerance < k.due := Nat.not_lt.2 (Nat.le_add_right _ _)
  have hnext : k.nextDue k.due = k.due.after k.interval := if_neg hearly
  rw [tick?, if_neg fun h => hearly h.1, tick, hnext]
  rfl

theorem after_span_succ (k : KeepAlive) (t : Instant) (n : Nat) :
    (t.after (k.span n)).after k.interval = t.after (k.span (n + 1)) := by
  simp only [Instant.after, span, Nat.add_mul, Nat.one_mul, Nat.add_assoc]

theorem lt_patience_iff (hD : 0 < k.interval.ns) {n : Nat} :
    n < k.patience ↔ k.span n < k.idleTime := by
  rw [patience, ← Nat.not_le, ceilDiv_le_iff_le_mul hD, Nat.not_le, Nat.mul_comm]
  rfl

/-- A busy connection has one more interval. -/
theorem le_patience_iff (hD : 0 < k.interval.ns) {n : Nat} :
    n ≤ k.patience ↔ (k.span n).ns < k.idleTime.ns + k.interval.ns := by
  cases n with
  | zero => simp only [Nat.zero_le, span, Nat.zero_mul, true_iff]; omega
  | succ n =>
      rw [Nat.succ_le_iff, lt_patience_iff hD, Duration.lt_def]
      simp only [span, Nat.add_mul, Nat.one_mul]
      omega

theorem patience_pos (hI : 0 < k.idleTime.ns) (hD : 0 < k.interval.ns) : 0 < k.patience := by
  rw [lt_patience_iff hD, Duration.lt_def, span, Nat.zero_mul]
  exact hI

/-- The decision for a free connection without a probe. -/
theorem check?_free_span (hD : 0 < k.interval.ns) (hk : k.probeSentAt = none) (last : Instant)
    (n : Nat) (canProbe : Bool) :
    k.check? .free last (last.after (k.span n)) canProbe = some
      (if n < k.patience then .active else if canProbe then .probe else .expired (k.span n)) := by
  simp only [check?, checkFree, hk, Instant.since_after, lt_patience_iff hD]

/-- The decision for a free connection whose probe was sent one tick before. -/
theorem check?_probing_span {last : Instant} {n : Nat}
    (hk : k.probeSentAt = some (last.after (k.span n))) (canProbe : Bool) :
    k.check? .free last (last.after (k.span (n + 1))) canProbe =
      some (.expired (k.span (n + 1))) := by
  have hoverdue : k.interval ≤ (last.after (k.span (n + 1))).since (last.after (k.span n)) := by
    rw [← after_span_succ, Instant.since_after]
    exact Nat.le_refl _
  simp only [check?, checkFree, hk, hoverdue, if_true, Instant.since_after]

/-- The decision for a busy connection. -/
theorem check?_busy_span (hD : 0 < k.interval.ns)
    (hfits : k.idleTime.ns + k.interval.ns < Duration.limit) {status : Status}
    (hs : status.isBusy = true) (last : Instant) (n : Nat) (canProbe : Bool) :
    k.check? status last (last.after (k.span n)) canProbe = some
      (if n ≤ k.patience then .active else .expired (k.span n)) := by
  have hbusy : k.check? status last (last.after (k.span n)) canProbe =
      k.checkBusy? (k.span n) := by
    cases status <;> first | (cases hs; done) | simp only [check?, Instant.since_after]
  have hlimit : (⟨k.idleTime.ns + k.interval.ns⟩ : Duration) ≤ k.span n ↔ ¬n ≤ k.patience := by
    rw [le_patience_iff hD, Nat.not_lt, Duration.le_def]
  rw [hbusy, checkBusy?, Duration.add?_eq_some_iff.2 ⟨hfits, rfl⟩, Option.map_some]
  simp only [hlimit, ite_not]

end KeepAlive

namespace Connection

variable {c : Connection} {now : Instant} {stimulus : Stimulus}

/-! ### Ticks and pieces of a probe -/

/-- The connection after a number of ticks, each of them taken when it is due. -/
def ticked (c : Connection) : Nat → Connection
  | 0 => c
  | n + 1 => ((c.ticked n).turn (c.ticked n).keepAlive.due .tick).next

/-- The connection after its socket has taken so many bytes, one piece after the other. -/
def accepting (c : Connection) : List (Instant × Nat) → Connection
  | [] => c
  | (now, count) :: pieces => (c.turn now (.accepted count)).next.accepting pieces

/-- The connection is about to fail, because it has been idle for so long. -/
def GivesUp (c : Connection) (idle : Duration) : Prop :=
  c.position = .signalled (.idle idle) ∧ ∀ now stimulus,
    (c.turn now stimulus).next.status = .connectFailed ∧
      (c.turn now stimulus).next.failure = some ⟨.idleTimeout idle, now⟩

theorem Intact.givesUp {idle : Duration} (h : c.Intact)
    (hp : c.position = .signalled (.idle idle)) : c.GivesUp idle := by
  refine ⟨hp, fun now stimulus => ?_⟩
  have hfailing := (h.firing_turn hp now stimulus).failing rfl
  exact ⟨hfailing.status_eq, hfailing.failure_eq⟩

theorem Intact.ticked (h : c.Intact) (n : Nat) : (c.ticked n).Intact := by
  induction n with
  | zero => exact h
  | succ n ih => exact ih.turn _ _

theorem Intact.accepting (h : c.Intact) (pieces : List (Instant × Nat)) :
    (c.accepting pieces).Intact := by
  induction pieces generalizing c with
  | nil => exact h
  | cons piece pieces ih => exact ih (h.turn _ _)

/-- A tick of a free connection that is taken when it is due. -/
theorem turn_freeTick (hp : c.position = .parked .free) :
    c.turn c.keepAlive.due .tick =
      match c.keepAlive.check? .free c.lastActivity c.keepAlive.due c.codec.probe.isSome with
      | some .active => ⟨{ c with keepAlive := c.keepAlive.onward }, []⟩
      | some .probe => { c with keepAlive := c.keepAlive.onward }.beginProbe c.keepAlive.due
          c.keepAlive.due
      | some (.expired idle) => { c with keepAlive := c.keepAlive.onward }.signal (.idle idle)
      | none => { c with keepAlive := c.keepAlive.onward }.crash := by
  have hdue : ¬c.keepAlive.due < c.keepAlive.due := Nat.lt_irrefl _
  have hfree : c.turn c.keepAlive.due .tick = c.observeFreeTick c.keepAlive.due := by
    rw [turn, hp]
    rfl
  rw [hfree, observeFreeTick]
  simp only [if_neg hdue, KeepAlive.tick?_due]
  rfl

/-- A tick of a busy connection that is taken when it is due. -/
theorem turn_busyTick
    (hp : c.position = .parked .waiting ∨ ∃ unsent, c.position = .parked (.writing unsent)) :
    c.turn c.keepAlive.due .tick =
      match c.keepAlive.check? c.status c.lastActivity c.keepAlive.due false with
      | some (.expired idle) => { c with keepAlive := c.keepAlive.onward }.signal (.idle idle)
      | some _ => ⟨{ c with keepAlive := c.keepAlive.onward }, []⟩
      | none => { c with keepAlive := c.keepAlive.onward }.crash := by
  have hdue : ¬c.keepAlive.due < c.keepAlive.due := Nat.lt_irrefl _
  have hbusy : c.turn c.keepAlive.due .tick = c.observeBusyTick c.keepAlive.due := by
    rcases hp with hp | ⟨unsent, hp⟩ <;> rw [turn, hp] <;> rfl
  rw [hbusy, observeBusyTick]
  simp only [if_neg hdue, KeepAlive.tick?_due]
  rfl

/-- The connection with nothing else changed but the next tick, which is planned a number of
intervals after the last activity. -/
def planning (c : Connection) (n : Nat) : Connection :=
  { c with keepAlive := { c.keepAlive with due := c.lastActivity.after (c.keepAlive.span n) } }

theorem onward_planning (c : Connection) (n : Nat) :
    { c.planning n with keepAlive := (c.planning n).keepAlive.onward } = c.planning (n + 1) := by
  simp only [planning, KeepAlive.onward]
  rw [← KeepAlive.after_span_succ]

theorem planning_one (hdue : c.keepAlive.due = c.lastActivity.after c.keepAlive.interval) :
    c.planning 1 = c := by
  have hspan : c.lastActivity.after (c.keepAlive.span 1) = c.keepAlive.due := by
    rw [hdue, KeepAlive.span, Nat.one_mul]
  rw [planning, hspan]

/-- The tick of a free connection, by its number. -/
theorem turn_planning_free (hD : 0 < c.keepAlive.interval.ns) (hp : c.position = .parked .free)
    (hk : c.keepAlive.probeSentAt = none) (n : Nat) :
    let tick := c.lastActivity.after (c.keepAlive.span n)
    (c.planning n).turn tick .tick =
      if n < c.keepAlive.patience then ⟨c.planning (n + 1), []⟩
      else if c.codec.probe.isSome then (c.planning (n + 1)).beginProbe tick tick
      else (c.planning (n + 1)).signal (.idle (c.keepAlive.span n)) := by
  intro tick
  have hturn := turn_freeTick (c := c.planning n) hp
  have hcheck := KeepAlive.check?_free_span (k := (c.planning n).keepAlive) hD hk c.lastActivity n
    c.codec.probe.isSome
  have hcheck' : (c.planning n).keepAlive.check? .free (c.planning n).lastActivity
      (c.planning n).keepAlive.due (c.planning n).codec.probe.isSome = _ := hcheck
  rw [hcheck', onward_planning] at hturn
  refine hturn.trans ?_
  by_cases hn : n < c.keepAlive.patience
  · have hn' : n < (c.planning n).keepAlive.patience := hn
    simp only [hn, hn', if_true]
  · have hn' : ¬n < (c.planning n).keepAlive.patience := hn
    simp only [hn, hn', if_false]
    cases c.codec.probe.isSome <;> rfl

/-- The tick of a busy connection, by its number. -/
theorem turn_planning_busy (hD : 0 < c.keepAlive.interval.ns)
    (hfits : c.keepAlive.idleTime.ns + c.keepAlive.interval.ns < Duration.limit)
    (hp : c.position = .parked .waiting ∨ ∃ unsent, c.position = .parked (.writing unsent))
    (hs : c.status.isBusy = true) (n : Nat) :
    (c.planning n).turn (c.lastActivity.after (c.keepAlive.span n)) .tick =
      if n ≤ c.keepAlive.patience then ⟨c.planning (n + 1), []⟩
      else (c.planning (n + 1)).signal (.idle (c.keepAlive.span n)) := by
  have hturn := turn_busyTick (c := c.planning n) hp
  have hcheck := KeepAlive.check?_busy_span (k := (c.planning n).keepAlive) hD hfits hs
    c.lastActivity n false
  have hcheck' : (c.planning n).keepAlive.check? (c.planning n).status (c.planning n).lastActivity
      (c.planning n).keepAlive.due false = _ := hcheck
  rw [hcheck', onward_planning] at hturn
  refine hturn.trans ?_
  by_cases hn : n ≤ c.keepAlive.patience
  · have hn' : n ≤ (c.planning n).keepAlive.patience := hn
    simp only [hn, hn', if_true]
  · have hn' : ¬n ≤ (c.planning n).keepAlive.patience := hn
    simp only [hn, hn', if_false]
    rfl

/-- **As long as ticks do nothing, nothing happens** but that the next one is planned. -/
theorem ticked_eq (hdue : c.keepAlive.due = c.lastActivity.after c.keepAlive.interval) {m : Nat}
    (hactive : ∀ n, 0 < n → n ≤ m →
      (c.planning n).turn (c.lastActivity.after (c.keepAlive.span n)) .tick =
        ⟨c.planning (n + 1), []⟩) :
    c.ticked m = c.planning (m + 1) := by
  induction m with
  | zero => exact (planning_one hdue).symm
  | succ m ih =>
      rw [ticked, ih fun n hpos hn => hactive n hpos (Nat.le_succ_of_le hn)]
      exact congrArg Progress.next (hactive (m + 1) (Nat.succ_pos m) (Nat.le_refl _))

/-- A free connection takes no bytes of a probe that is not being sent. -/
theorem accepting_of_free (hp : c.position = .parked .free) (pieces : List (Instant × Nat)) :
    c.accepting pieces = c := by
  induction pieces with
  | nil => rfl
  | cons piece pieces ih =>
      have hturn : (c.turn piece.1 (.accepted piece.2)).next = c := by
        rw [turn, hp]
        rfl
      rw [accepting, hturn, ih]

/-- A probe that is taken piece by piece is outstanding in the end, and counted once. -/
theorem accepting_eq {probe unsent : Bytes} {tick expiry : Instant}
    (hp : c.position = .parked (.probing probe unsent tick expiry)) (hne : unsent ≠ [])
    {pieces : List (Instant × Nat)} (hall : unsent.length ≤ (pieces.map (·.2)).sum) :
    ∃ block, c.accepting pieces = { c with
      block
      counters := c.counters.probed.sent probe.length
      keepAlive := c.keepAlive.probeSent tick
      position := .parked .free } := by
  induction pieces generalizing c unsent with
  | nil => exact absurd (List.eq_nil_of_length_eq_zero (Nat.le_zero.1 hall)) hne
  | cons piece pieces ih =>
      obtain ⟨now, count⟩ := piece
      rw [accepting]
      by_cases hrest : unsent.drop count = []
      · obtain ⟨block, -, heq⟩ := c.completeProbe_eq probe tick
        refine ⟨block, ?_⟩
        have hturn : (c.turn now (.accepted count)).next = (c.completeProbe probe tick).next := by
          rw [turn, hp]
          simp only [observe, observeProbing, hrest, if_true, Progress.next_andThen, next_transmit]
        rw [hturn, heq]
        exact accepting_of_free rfl pieces
      · have hturn : (c.turn now (.accepted count)).next =
            { c with position := .parked (.probing probe (unsent.drop count) tick expiry) } := by
          rw [turn, hp]
          simp only [observe, observeProbing, hrest, if_false, Progress.next_andThen,
            next_transmit, park]
        rw [hturn]
        refine ih rfl hrest ?_
        rw [List.map_cons, List.sum_cons] at hall
        rw [List.length_drop]
        omega

/-- **A probe that is begun is outstanding once the socket has taken it**, an empty one at once. -/
theorem accepting_beginProbe {probe : Bytes} (now tick : Instant)
    (hsocket : c.socket.isSome = true) (hprobe : c.codec.probe = some probe)
    {pieces : List (Instant × Nat)} (hall : probe.length ≤ (pieces.map (·.2)).sum) :
    ∃ block, (c.beginProbe now tick).next.accepting pieces = { c with
      block
      counters := c.counters.probed.sent probe.length
      keepAlive := c.keepAlive.probeSent tick
      position := .parked .free } := by
  obtain ⟨socket, hsocket⟩ := Option.isSome_iff_exists.1 hsocket
  have hbegin : c.beginProbe now tick = if probe = [] then c.completeProbe probe tick
      else c.park (.probing probe probe tick (c.probeExpiry now)) := by
    rw [beginProbe, hprobe, hsocket]
  rw [hbegin]
  by_cases hempty : probe = []
  · obtain ⟨block, -, heq⟩ := c.completeProbe_eq probe tick
    refine ⟨block, ?_⟩
    rw [if_pos hempty, heq]
    exact accepting_of_free rfl pieces
  · rw [if_neg hempty]
    exact accepting_eq (c := (c.park (.probing probe probe tick (c.probeExpiry now))).next) rfl
      hempty hall

/-- The tick at which the idle time is over wants a probe.  Once the socket has taken it, the probe
is outstanding, and nothing else has changed but the tick that is planned. -/
theorem probed_eq (hD : 0 < c.keepAlive.interval.ns) (hp : c.position = .parked .free)
    (hk : c.keepAlive.probeSentAt = none) (hsocket : c.socket.isSome = true) {probe : Bytes}
    (hprobe : c.codec.probe = some probe) {pieces : List (Instant × Nat)}
    (hall : probe.length ≤ (pieces.map (·.2)).sum) :
    let n := c.keepAlive.patience
    let tick := c.lastActivity.after (c.keepAlive.span n)
    ∃ block, ((c.planning n).turn tick .tick).next.accepting pieces = { c.planning (n + 1) with
      block
      counters := c.counters.probed.sent probe.length
      keepAlive := (c.planning (n + 1)).keepAlive.probeSent tick } := by
  intro n tick
  have hsome : c.codec.probe.isSome = true := by rw [hprobe]; rfl
  rw [turn_planning_free hD hp hk n, if_neg (Nat.lt_irrefl _), if_pos hsome]
  obtain ⟨block, heq⟩ := accepting_beginProbe (c := c.planning (n + 1)) tick tick hsocket hprobe
    hall
  refine ⟨block, heq.trans ?_⟩
  have hfree : (c.planning (n + 1)).position = .parked .free := hp
  rw [← hfree]
  rfl

/-! ### A connection that stays idle -/

/-- A tick after others that did nothing. -/
theorem ticked_succ {m : Nat} (h : c.ticked m = c.planning (m + 1)) :
    c.ticked (m + 1) =
      ((c.planning (m + 1)).turn (c.lastActivity.after (c.keepAlive.span (m + 1))) .tick).next := by
  rw [ticked, h]
  rfl

/-- A free connection is left alone until its idle time is over. -/
theorem ticked_free (hD : 0 < c.keepAlive.interval.ns) (hp : c.position = .parked .free)
    (hk : c.keepAlive.probeSentAt = none)
    (hdue : c.keepAlive.due = c.lastActivity.after c.keepAlive.interval) {m : Nat}
    (hm : m < c.keepAlive.patience) : c.ticked m = c.planning (m + 1) :=
  ticked_eq hdue fun n _ hn => by
    rw [turn_planning_free hD hp hk n, if_pos (Nat.lt_of_le_of_lt hn hm)]

/-- A busy connection is left alone for one interval more. -/
theorem ticked_busy (hD : 0 < c.keepAlive.interval.ns)
    (hfits : c.keepAlive.idleTime.ns + c.keepAlive.interval.ns < Duration.limit)
    (hp : c.position = .parked .waiting ∨ ∃ unsent, c.position = .parked (.writing unsent))
    (hs : c.status.isBusy = true)
    (hdue : c.keepAlive.due = c.lastActivity.after c.keepAlive.interval) {m : Nat}
    (hm : m ≤ c.keepAlive.patience) : c.ticked m = c.planning (m + 1) :=
  ticked_eq hdue fun n _ hn => by
    rw [turn_planning_busy hD hfits hp hs n, if_pos (Nat.le_trans hn hm)]

/-- A tick of a free connection whose probe was sent one tick before. -/
theorem ticked_probing {n : Nat} (hp : c.position = .parked .free)
    (hk : c.keepAlive.probeSentAt = some (c.lastActivity.after (c.keepAlive.span n)))
    (hdue : c.keepAlive.due = c.lastActivity.after (c.keepAlive.span (n + 1))) :
    c.ticked 1 = { c with
      keepAlive := c.keepAlive.onward
      position := .signalled (.idle (c.keepAlive.span (n + 1))) } := by
  have hcheck := KeepAlive.check?_probing_span hk c.codec.probe.isSome
  have hturn := turn_freeTick hp
  rw [show c.keepAlive.check? _ _ c.keepAlive.due _ = _ from hdue ▸ hcheck] at hturn
  exact congrArg Progress.next hturn

/-- **A free connection is given up when its idle time is over** and it cannot be probed. -/
theorem Intact.givesUp_unprobed (h : c.Intact) (hI : 0 < c.keepAlive.idleTime.ns)
    (hD : 0 < c.keepAlive.interval.ns) (hp : c.position = .parked .free)
    (hk : c.keepAlive.probeSentAt = none)
    (hdue : c.keepAlive.due = c.lastActivity.after c.keepAlive.interval)
    (hprobe : c.codec.probe = none) :
    (c.ticked c.keepAlive.patience).GivesUp (c.keepAlive.span c.keepAlive.patience) := by
  have hpos := KeepAlive.patience_pos hI hD
  refine (h.ticked _).givesUp ?_
  obtain ⟨m, hm⟩ := Nat.exists_eq_succ_of_ne_zero (Nat.ne_of_gt hpos)
  have hbefore := ticked_free hD hp hk hdue (hm ▸ Nat.lt_succ_self m)
  have hsome : ¬c.codec.probe.isSome = true := by rw [hprobe]; nofun
  rw [hm, ticked_succ hbefore, turn_planning_free hD hp hk, if_neg (by omega), if_neg hsome]
  rfl

/-- **A busy connection is given up one interval later.** -/
theorem Intact.givesUp_busy (h : c.Intact) (hD : 0 < c.keepAlive.interval.ns)
    (hfits : c.keepAlive.idleTime.ns + c.keepAlive.interval.ns < Duration.limit)
    (hp : c.position = .parked .waiting ∨ ∃ unsent, c.position = .parked (.writing unsent))
    (hs : c.status.isBusy = true)
    (hdue : c.keepAlive.due = c.lastActivity.after c.keepAlive.interval) :
    (c.ticked (c.keepAlive.patience + 1)).GivesUp
      (c.keepAlive.span (c.keepAlive.patience + 1)) := by
  refine (h.ticked _).givesUp ?_
  rw [ticked_succ (ticked_busy hD hfits hp hs hdue (Nat.le_refl _)),
    turn_planning_busy hD hfits hp hs, if_neg (by omega)]
  rfl

/-- What has become of a free connection when the probe is outstanding that was sent because its
idle time was over. -/
structure Probed (c d : Connection) : Prop where
  position_eq : d.position = .parked .free
  status_eq : d.status = c.status
  lastActivity_eq : d.lastActivity = c.lastActivity
  probeSentAt_eq : d.keepAlive.probeSentAt =
    some (c.lastActivity.after (c.keepAlive.span c.keepAlive.patience))
  due_eq : d.keepAlive.due =
    c.lastActivity.after (c.keepAlive.span (c.keepAlive.patience + 1))
  /-- It is the only one. -/
  probesSent_eq : d.counters.probesSent = c.counters.probesSent + 1
  /-- The next tick sends no other. -/
  ticked_probesSent : (d.ticked 1).counters.probesSent = c.counters.probesSent + 1
  /-- It gives up the connection. -/
  givesUp : (d.ticked 1).GivesUp (c.keepAlive.span (c.keepAlive.patience + 1))

/-- **A free connection that is probed in vain is given up at the next tick.** -/
theorem Intact.probed (h : c.Intact) (hI : 0 < c.keepAlive.idleTime.ns)
    (hD : 0 < c.keepAlive.interval.ns) (hp : c.position = .parked .free)
    (hk : c.keepAlive.probeSentAt = none)
    (hdue : c.keepAlive.due = c.lastActivity.after c.keepAlive.interval)
    (hsocket : c.socket.isSome = true) {probe : Bytes} (hprobe : c.codec.probe = some probe)
    {pieces : List (Instant × Nat)} (hall : probe.length ≤ (pieces.map (·.2)).sum) :
    c.Probed ((c.ticked c.keepAlive.patience).accepting pieces) := by
  have hpos := KeepAlive.patience_pos hI hD
  obtain ⟨m, hm⟩ := Nat.exists_eq_succ_of_ne_zero (Nat.ne_of_gt hpos)
  have hbefore := ticked_free hD hp hk hdue (hm ▸ Nat.lt_succ_self m)
  have hintact := (h.ticked c.keepAlive.patience).accepting pieces
  have hlast : c.ticked c.keepAlive.patience = ((c.planning c.keepAlive.patience).turn
      (c.lastActivity.after (c.keepAlive.span c.keepAlive.patience)) .tick).next := by
    rw [hm]
    exact ticked_succ hbefore
  obtain ⟨block, heq⟩ := probed_eq hD hp hk hsocket hprobe hall
  rw [← hlast] at heq
  have hnext := ticked_probing (c := (c.ticked c.keepAlive.patience).accepting pieces)
    (n := c.keepAlive.patience) (by rw [heq]; exact hp) (by rw [heq]; rfl) (by rw [heq]; rfl)
  have hgives := (hintact.ticked 1).givesUp (congrArg position hnext)
  have hcount := congrArg (·.counters.probesSent) hnext
  rw [heq] at hgives hcount ⊢
  exact ⟨hp, rfl, rfl, rfl, rfl, rfl, hcount, hgives⟩

end Connection

namespace Scene

variable {s : Scene}

/-- **The schedule of a connection that is idle**, in every scene that a run leads to.  Let the last
activity be what the ticks are counted from.  The decisions depend on the number of the tick.  A
free connection is left alone until the idle time is over.  If it cannot be probed, it is given up
then; otherwise one probe is sent, and the next tick gives up the connection.  A busy connection is
left alone until that next tick, which gives it up as well. -/
theorem idle_schedule (h : s.Reachable) (hI : 0 < s.connection.config.idleTime.ns)
    (hD : 0 < s.connection.config.detectionInterval.ns)
    (hfits : s.connection.config.idleTime.ns + s.connection.config.detectionInterval.ns <
      Duration.limit)
    (hdue : s.connection.keepAlive.due =
      s.connection.lastActivity.after s.connection.config.detectionInterval) :
    let c := s.connection
    let t₀ := c.lastActivity
    let patience := c.config.idleTime.ns ⌈/⌉ c.config.detectionInterval.ns
    let after (n : Nat) : Duration := ⟨n * c.config.detectionInterval.ns⟩
    0 < patience ∧
    (c.position = .parked .free → c.keepAlive.probeSentAt = none →
      (∀ n canProbe, c.keepAlive.check? .free t₀ (t₀.after (after n)) canProbe = some
        (if n < patience then .active else if canProbe then .probe else .expired (after n))) ∧
      (∀ n < patience, c.ticked n = c.planning (n + 1)) ∧
      (c.codec.probe = none → (c.ticked patience).GivesUp (after patience)) ∧
      (∀ probe pieces, c.codec.probe = some probe → probe.length ≤ (pieces.map (·.2)).sum →
        c.Probed ((c.ticked patience).accepting pieces))) ∧
    (c.position = .parked .waiting ∨ (∃ unsent, c.position = .parked (.writing unsent)) →
      (∀ n canProbe, c.keepAlive.check? c.status t₀ (t₀.after (after n)) canProbe = some
        (if n ≤ patience then .active else .expired (after n))) ∧
      (∀ n ≤ patience, c.ticked n = c.planning (n + 1)) ∧
      (c.ticked (patience + 1)).GivesUp (after (patience + 1))) := by
  intro c t₀ patience after
  have ht : c.Tuned := h.tuned
  have hp : patience = c.keepAlive.patience := by
    rw [KeepAlive.patience, ht.idleTime_eq, ht.interval_eq]
  have ha : after = c.keepAlive.span := by
    funext n
    rw [KeepAlive.span, ht.interval_eq]
  have hI : 0 < c.keepAlive.idleTime.ns := ht.idleTime_eq ▸ hI
  have hD : 0 < c.keepAlive.interval.ns := ht.interval_eq ▸ hD
  have hfits : c.keepAlive.idleTime.ns + c.keepAlive.interval.ns < Duration.limit :=
    ht.idleTime_eq ▸ ht.interval_eq ▸ hfits
  have hdue : c.keepAlive.due = c.lastActivity.after c.keepAlive.interval :=
    ht.interval_eq ▸ hdue
  rw [hp, ha]
  refine ⟨KeepAlive.patience_pos hI hD, fun hfree hk => ?_, fun hbusy => ?_⟩
  · have hs : c.Sound := h.intact.sound (by rw [hfree]; nofun)
    have hstatus : c.status = .free := by
      have hfits := hs.fits
      rwa [hfree] at hfits
    have hsocket : c.socket.isSome = true := hs.socket_iff.2 (by rw [hstatus]; rfl)
    exact ⟨KeepAlive.check?_free_span hD hk t₀,
      fun n hn => Connection.ticked_free hD hfree hk hdue hn,
      h.intact.givesUp_unprobed hI hD hfree hk hdue,
      fun probe pieces hprobe => h.intact.probed hI hD hfree hk hdue hsocket hprobe⟩
  · have hstatus : c.status.isBusy = true := by
      have hs : c.Sound := h.intact.sound (by rcases hbusy with hb | ⟨_, hb⟩ <;> rw [hb] <;> nofun)
      have hfits := hs.fits
      rcases hbusy with hb | ⟨_, hb⟩ <;> rw [hb] at hfits <;> rw [show c.status = _ from hfits] <;>
        rfl
    exact ⟨KeepAlive.check?_busy_span hD hfits hstatus t₀,
      fun n hn => Connection.ticked_busy hD hfits hbusy hstatus hdue hn,
      h.intact.givesUp_busy hD hfits hbusy hstatus hdue⟩

/-- A run in which a connection becomes free. -/
def quietRun : List Move :=
  [.turn ⟨0⟩ .tick, .turn ⟨0⟩ .tick, .connect, .turn ⟨1000⟩ .command, .turn ⟨1000⟩ .tick,
    .turn ⟨1000⟩ .tick, .turn ⟨2000⟩ (.dialled ⟨0, none, []⟩), .turn ⟨2000⟩ .tick,
    .turn ⟨2000⟩ .tick]

/-- The scene that the run leads to, with a probe and with a tick every seven seconds. -/
def quiet : Scene := (start ⟨0⟩ ⟨"node", 9001⟩ { detectionInterval := .ofSecs 7 }
  { FrameCodec.line with probe := some [63] } none).run quietRun

theorem reachable_quiet : quiet.Reachable := (Reachable.start _ _ _ _ _).run _

/-- A minute takes nine intervals of seven seconds. -/
theorem idle_schedule_quiet :
    quiet.connection.position = .parked .free ∧ quiet.connection.keepAlive.probeSentAt = none ∧
      quiet.connection.Probed
        ((quiet.connection.ticked 9).accepting [(⟨63000002000⟩, 1)]) := by
  have hpatience : quiet.connection.config.idleTime.ns ⌈/⌉
      quiet.connection.config.detectionInterval.ns = 9 := by
    have hidle : quiet.connection.config.idleTime = .ofSecs 60 := by decide
    have hinterval : quiet.connection.config.detectionInterval = .ofSecs 7 := by decide
    rw [hidle, hinterval, Nat.ceilDiv_eq_add_pred_div]
    rfl
  obtain ⟨-, hfree, -⟩ :=
    idle_schedule reachable_quiet (by decide) (by decide) (by decide) (by decide)
  obtain ⟨-, -, -, hprobed⟩ := hfree (by decide) (by decide)
  have h := hprobed [63] [(⟨63000002000⟩, 1)] (by decide) (by decide)
  rw [hpatience] at h
  exact ⟨by decide, by decide, h⟩

end Scene

end Uplink
