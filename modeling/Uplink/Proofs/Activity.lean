/-
The record of the last activity.

Each activity is recorded as a whole number of microseconds since the connection was created, and
the record only goes up.  So it does not matter in which order activities are recorded, an activity
that comes before the creation counts as the creation, and what the record says is the latest
activity, rounded down to the microsecond.

* `Uplink.latest` — the latest of some instants;
* `Uplink.Connection.touchAll` — several activities are recorded;
* `Uplink.Connection.Recalls` — what the record says of an instant;
* `Uplink.Connection.Recalls.touch`, `Uplink.Connection.Recalls.touchAll` — **the record says the
  latest instant**, after one activity and after any number of them;
* `Uplink.Connection.activity_recalled` — how far the record and the time without activity are from
  the truth.
-/

import Mathlib.Data.List.Perm.Basic
import Uplink.Connection.State

set_option relaxedAutoImplicit false
set_option autoImplicit false

namespace Uplink

variable {created last t : Instant} {times others : List Instant}

/-! ### The latest instant -/

theorem Instant.ns_max (a b : Instant) : (a.max b).ns = Max.max a.ns b.ns := by
  unfold Instant.max
  split
  next h => exact (Nat.max_eq_right h).symm
  next h => exact (Nat.max_eq_left (Nat.le_of_not_le h)).symm

/-- The latest of some instants, none of them before the creation. -/
def latest (created : Instant) (times : List Instant) : Instant := times.foldl Instant.max created

theorem latest_cons (created t : Instant) (times : List Instant) :
    latest created (t :: times) = latest (created.max t) times := rfl

theorem le_latest : ∀ t ∈ created :: times, t ≤ latest created times := by
  induction times generalizing created with
  | nil =>
      intro t ht
      rw [List.mem_singleton.1 ht]
      exact Nat.le_refl _
  | cons first times ih =>
      intro t ht
      have hstart : created.max first ≤ latest created (first :: times) := ih _ List.mem_cons_self
      rw [Instant.le_def, Instant.ns_max] at hstart
      rw [Instant.le_def]
      rcases List.mem_cons.1 ht with rfl | ht
      · exact Nat.le_trans (Nat.le_max_left _ _) hstart
      · rcases List.mem_cons.1 ht with rfl | ht
        · exact Nat.le_trans (Nat.le_max_right _ _) hstart
        · exact ih t (List.mem_cons_of_mem _ ht)

theorem latest_mem : latest created times ∈ created :: times := by
  induction times generalizing created with
  | nil => exact List.mem_singleton.2 rfl
  | cons first times ih =>
      rcases List.mem_cons.1 (@ih (created.max first)) with heq | hmem
      · rw [latest_cons, heq, Instant.max]
        split
        · exact List.mem_cons_of_mem _ List.mem_cons_self
        · exact List.mem_cons_self
      · exact List.mem_cons_of_mem _ (List.mem_cons_of_mem _ hmem)

/-- The order of the instants does not matter. -/
theorem latest_perm (h : others.Perm times) : latest created others = latest created times := by
  refine h.foldl_eq' (fun a _ b _ c => ?_) created
  refine congrArg Instant.mk ?_
  change ((c.max a).max b).ns = ((c.max b).max a).ns
  simp only [Instant.ns_max]
  exact Nat.max_right_comm ..

/-! ### The record -/

namespace Connection

variable {c : Connection}

/-- Several activities are recorded, one after the other. -/
def touchAll (c : Connection) (times : List Instant) : Connection := times.foldl touch c

/-- The record says an instant, not before the creation, in whole microseconds since then. -/
structure Recalls (c : Connection) (created last : Instant) : Prop where
  created_eq : c.created = created
  created_le : created ≤ last
  activity_eq : c.activity = (last.since created).micros

/-- A fresh connection says when it was created. -/
theorem recalls_spawn (created : Instant) (endpoint : Endpoint) (config : Config)
    (codec : FrameCodec) (name : Option String) :
    (spawn created endpoint config codec name).Recalls created created where
  created_eq := rfl
  created_le := Nat.le_refl _
  activity_eq := by simp [spawn, Instant.since, Duration.micros]

/-- Of two instants, the record says the later one. -/
theorem Recalls.touch (h : c.Recalls created last) (t : Instant) :
    (c.touch t).Recalls created (last.max t) where
  created_eq := h.created_eq
  created_le := by
    rw [Instant.le_def, Instant.ns_max]
    exact Nat.le_trans h.created_le (Nat.le_max_left _ _)
  activity_eq := by
    change max c.activity (t.since c.created).micros = ((last.max t).since created).micros
    rw [h.created_eq, h.activity_eq]
    simp only [Instant.since, Duration.micros, Instant.ns_max]
    -- Neither the difference nor the rounding changes the order of two instants.
    omega

/-- The record says the latest of all activities. -/
theorem Recalls.touchAll (h : c.Recalls created last) (times : List Instant) :
    (c.touchAll times).Recalls created (latest last times) := by
  induction times generalizing c last with
  | nil => exact h
  | cons t times ih => exact ih (h.touch t)

/-- The record is less than a microsecond behind. -/
theorem Recalls.lastActivity (h : c.Recalls created last) :
    c.lastActivity ≤ last ∧ last.ns < c.lastActivity.ns + 1000 := by
  have hle : created.ns ≤ last.ns := h.created_le
  have hns : c.lastActivity.ns = created.ns + (last.ns - created.ns) / 1000 * 1000 := by
    rw [Connection.lastActivity, h.created_eq, h.activity_eq]
    rfl
  rw [Instant.le_def, hns]
  omega

/-- The time without activity is less than a microsecond too long. -/
theorem Recalls.idleFor (h : c.Recalls created last) {now : Instant} (hnow : last ≤ now) :
    now.since last ≤ c.idleFor now ∧ (c.idleFor now).ns < (now.since last).ns + 1000 := by
  obtain ⟨hle, hlt⟩ := h.lastActivity
  have hlater : last.ns ≤ now.ns := hnow
  rw [Instant.le_def] at hle
  rw [Duration.le_def]
  simp only [Connection.idleFor, Instant.since]
  omega

/-- The record never goes back. -/
theorem lastActivity_touch (c : Connection) (t : Instant) :
    c.lastActivity ≤ (c.touch t).lastActivity :=
  Nat.add_le_add_left (Nat.mul_le_mul_right _ (Nat.le_max_left _ _)) _

theorem lastActivity_touchAll (c : Connection) (times : List Instant) :
    c.lastActivity ≤ (c.touchAll times).lastActivity := by
  induction times generalizing c with
  | nil => exact Nat.le_refl _
  | cons t times ih => exact Nat.le_trans (c.lastActivity_touch t) (ih (c.touch t))

end Connection

/-- A detector that gives a connection up tells the time without activity. -/
theorem KeepAlive.expired_eq {k : KeepAlive} {status : Status} {lastActivity now : Instant}
    {canProbe : Bool} {idle : Duration}
    (h : k.check? status lastActivity now canProbe = some (.expired idle)) :
    idle = now.since lastActivity := by
  unfold check? at h
  cases status with
  | free =>
      simp only [checkFree, Option.some.injEq] at h
      split at h <;> split at h <;> grind
  | writing | waiting =>
      obtain ⟨limit, -, hlimit⟩ := Option.map_eq_some_iff.1 h
      grind
  | undefined | connecting | connectFailed | stopped => cases h

namespace Connection

/-- **How far the record and the time without activity are from the truth**, for a connection with
activities at any instants, in any order, as long as a word holds the microseconds of each.  There
is a latest of these instants and that of the creation.  What is recorded fits a word; the last
activity never goes back, does not depend on the order of the activities, and is the latest instant
or less than a microsecond before it.  From then on the time without activity, as the detector
tells it, is at least the time since the latest instant, and less than a microsecond more. -/
theorem activity_recalled (created : Instant) (endpoint : Endpoint) (config : Config)
    (codec : FrameCodec) (name : Option String) (times : List Instant)
    (hrange : ∀ t ∈ times, (t.since created).micros ≤ maxWord) :
    let fresh := spawn created endpoint config codec name
    let c := fresh.touchAll times
    let last := latest created times
    (last ∈ created :: times ∧ ∀ t ∈ created :: times, t ≤ last) ∧
    c.activity ≤ maxWord ∧
    (∀ early later, times = early ++ later →
      (fresh.touchAll early).lastActivity ≤ c.lastActivity) ∧
    (∀ others : List Instant, others.Perm times →
      (fresh.touchAll others).lastActivity = c.lastActivity) ∧
    (c.lastActivity ≤ last ∧ last.since c.lastActivity < .ofMicros 1) ∧
    ∀ now, last ≤ now →
      (now.since last ≤ c.idleFor now ∧ (c.idleFor now).ns < (now.since last).ns + 1000) ∧
      ∀ (k : KeepAlive) (status : Status) (canProbe : Bool) (idle : Duration),
        k.check? status c.lastActivity now canProbe = some (.expired idle) →
          idle = c.idleFor now := by
  intro fresh c last
  have hfresh : fresh.Recalls created created := recalls_spawn created endpoint config codec name
  have hc : c.Recalls created last := hfresh.touchAll times
  obtain ⟨hle, hlt⟩ := hc.lastActivity
  refine ⟨⟨latest_mem, le_latest⟩, ?_, ?_, fun others hperm => ?_, ⟨hle, ?_⟩,
    fun now hnow => ⟨hc.idleFor hnow, fun k status canProbe idle => KeepAlive.expired_eq⟩⟩
  · -- The latest instant is one of those that a word holds, or the creation.
    have hlast : last ∈ created :: times := latest_mem
    rw [hc.activity_eq]
    rcases List.mem_cons.1 hlast with heq | hmem
    · rw [heq]
      simp [Instant.since, Duration.micros]
    · exact hrange last hmem
  · rintro early later rfl
    have happend : c = (fresh.touchAll early).touchAll later := List.foldl_append ..
    rw [happend]
    exact lastActivity_touchAll _ later
  · have hothers := hfresh.touchAll others
    rw [latest_perm hperm] at hothers
    rw [lastActivity, lastActivity, hothers.created_eq, hothers.activity_eq, hc.created_eq,
      hc.activity_eq]
  · rw [Duration.lt_def]
    simp only [Instant.since, Duration.ofMicros]
    omega

/-- Activities in no order: the second one comes before the creation. -/
def outOfOrder : List Instant := [⟨5000700⟩, ⟨400⟩, ⟨2000000⟩]

theorem activity_recalled_outOfOrder :
    let c := (spawn ⟨1000000⟩ ⟨"node", 9001⟩ {} .never none).touchAll outOfOrder
    (∀ t ∈ outOfOrder, (t.since ⟨1000000⟩).micros ≤ maxWord) ∧
    c.activity ≤ maxWord ∧ latest ⟨1000000⟩ outOfOrder = ⟨5000700⟩ ∧
    c.lastActivity = ⟨5000000⟩ ∧ c.lastActivity ≤ ⟨5000700⟩ ∧
    c.idleFor ⟨7000000⟩ = ⟨2000000⟩ ∧
    (c.idleFor ⟨7000000⟩).ns < ((⟨7000000⟩ : Instant).since ⟨5000700⟩).ns + 1000 := by
  have hrange : ∀ t ∈ outOfOrder, (t.since ⟨1000000⟩).micros ≤ maxWord := by decide
  have hlast : latest ⟨1000000⟩ outOfOrder = ⟨5000700⟩ := by decide
  obtain ⟨-, hfits, -, -, ⟨hle, -⟩, hidle⟩ :=
    activity_recalled ⟨1000000⟩ ⟨"node", 9001⟩ {} .never none outOfOrder hrange
  rw [hlast] at hle hidle
  exact ⟨hrange, hfits, hlast, by decide, hle, by decide, (hidle ⟨7000000⟩ (by decide)).1.2⟩

end Connection

end Uplink
