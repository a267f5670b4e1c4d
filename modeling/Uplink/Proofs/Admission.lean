/-
A connection is added to a pool.

Two things may go wrong: the settings cannot be used, or the slot lies beyond what a handle can
name.  The settings are looked at first, before anything is touched.  The slot is looked at last,
when the new connection is in it already; so a pool that is full answers with an error and has one
member more.  No handle leads to that member, and all others are found as before.

* `Uplink.Pool.connection?` — the connection that a handle leads to;
* `Uplink.Pool.nextSlot`, `Uplink.Pool.Taken.index_eq` — the slot that the next member comes into;
* `Uplink.Pool.Taken.get?_eq` — a new member changes nothing for the others;
* `Uplink.PoolState.add_cases` — **a connection is added or the pool stays as it is**, as long as a
  handle can name the slot;
* `Uplink.PoolState.crowded`, `Uplink.PoolState.added_though_full` — a pool that is full, and what
  an addition does to it.
-/

import Uplink.Proofs.PoolState

set_option relaxedAutoImplicit false
set_option autoImplicit false

namespace Uplink

namespace Pool

variable {p q : Pool} {f : Fleet} {h k : PoolHandle} {index generation member count : Nat}

/-! ### Connections behind handles -/

/-- The connection that a handle leads to. -/
def connection? (p : Pool) (f : Fleet) (h : PoolHandle) : Option Connection :=
  (p.get? h).bind (f[·]?)

/-- Connections that are made later do not matter. -/
theorem Manned.connection?_append (hm : p.Manned f.length) (more : Fleet) (h : PoolHandle) :
    p.connection? (f ++ more) h = p.connection? f h := by
  unfold connection?
  cases hget : p.get? h with
  | none => rfl
  | some member => exact List.getElem?_append_left (hm.member_lt h member hget)

/-! ### The next slot -/

/-- The slot that the next member comes into. -/
def nextSlot (p : Pool) : Nat := p.spare.head?.getD p.slots.length

theorem Taken.index_eq (hq : Taken p q index generation member) : index = p.nextSlot := by
  rcases hq.free with ⟨-, hspare⟩ | ⟨rfl, -, hspare, -⟩
  · rw [nextSlot, hspare, List.head?_cons, Option.getD_some]
  · rw [nextSlot, hspare, List.head?_nil, Option.getD_none]

/-- Every handle but that of the new member leads where it did. -/
theorem Taken.get?_eq (hq : Taken p q index generation member) (hk : k ≠ ⟨index, generation⟩) :
    q.get? k = p.get? k := by
  refine Option.ext fun n => ?_
  rw [hq.get?_iff]
  exact or_iff_right fun hnew => hk hnew.1

end Pool

/-! ### Connections that can be made -/

theorem Blueprint.build_of_fault {blueprint : Blueprint} {fault : ConfigFault}
    (h : blueprint.config.fault? = some fault) (now : Instant) :
    blueprint.build now = .error fault := by
  simp only [Blueprint.build, Config.check, h]
  rfl

theorem Blueprint.build_of_valid {blueprint : Blueprint} (h : blueprint.config.Valid)
    (now : Instant) : ∃ c, blueprint.build now = .ok c := by
  simp only [Blueprint.build, Config.check, Config.fault?_eq_none_iff.2 h]
  exact ⟨_, rfl⟩

/-! ### Additions -/

namespace PoolState

variable {s : PoolState} {now : Instant} {blueprint : Blueprint} {c : Connection}

/-- A connection that can be made comes into the next slot.  Whether a handle can name that slot
makes a difference to the answer alone. -/
theorem add_eq (hs : s.Reachable) (hc : blueprint.build now = .ok c) : ∃ generation q,
    s.pool.add s.fleet now blueprint =
      (if Pool.wordSize ≤ s.pool.nextSlot then .error .poolFull
        else .ok ⟨s.pool.nextSlot, generation⟩, q, s.fleet ++ [c]) ∧
    s.pool.Taken q s.pool.nextSlot generation s.fleet.length := by
  obtain ⟨index, generation, q, hinsert, hq⟩ := Pool.insert_eq hs.manned.tidy s.fleet.length
  obtain rfl := hq.index_eq
  refine ⟨generation, q, ?_, hq⟩
  simp only [Pool.add, hc, hinsert]

/-- **A connection is added, or the pool stays as it is**, as long as a handle can name the slot.
Settings that cannot be used change nothing at all.  Otherwise the pool has one member more: its
handle leads to the new connection, and every other handle leads where it did.  Only when no handle
can name the slot, the answer is an error although there is one member more; no handle leads to it,
and those of all others lead where they did. -/
theorem add_cases (hs : s.Reachable) (now : Instant) (blueprint : Blueprint) :
    let result := s.pool.add s.fleet now blueprint
    (∀ fault, blueprint.config.fault? = some fault →
      result = (.error fault, s.pool, s.fleet)) ∧
    (blueprint.config.Valid → ∃ c q, blueprint.build now = .ok c ∧
      result.2 = (q, s.fleet ++ [c]) ∧ q.size = s.pool.size + 1 ∧
      (s.pool.nextSlot < Pool.wordSize → ∃ h, result.1 = .ok h ∧ h.index = s.pool.nextSlot ∧
        q.connection? (s.fleet ++ [c]) h = some c ∧
        ∀ k, k ≠ h → q.connection? (s.fleet ++ [c]) k = s.pool.connection? s.fleet k) ∧
      (Pool.wordSize ≤ s.pool.nextSlot → result.1 = .error .poolFull ∧
        ∀ k : PoolHandle, k.index < Pool.wordSize →
          q.connection? (s.fleet ++ [c]) k = s.pool.connection? s.fleet k)) := by
  intro result
  refine ⟨fun fault hfault => ?_, fun hvalid => ?_⟩
  · simp only [result, Pool.add, Blueprint.build_of_fault hfault]
  obtain ⟨c, hc⟩ := Blueprint.build_of_valid hvalid now
  obtain ⟨generation, q, hadd, hq⟩ := add_eq hs hc
  have hothers (k : PoolHandle) (hk : k ≠ ⟨s.pool.nextSlot, generation⟩) :
      q.connection? (s.fleet ++ [c]) k = s.pool.connection? s.fleet k := by
    rw [← hs.manned.connection?_append [c], Pool.connection?, hq.get?_eq hk, Pool.connection?]
  refine ⟨c, q, hc, congrArg Prod.snd hadd, hq.size_eq, fun hlt => ?_, fun hle => ?_⟩
  · refine ⟨⟨s.pool.nextSlot, generation⟩, ?_, rfl, ?_, hothers⟩
    · rw [show result.1 = _ from congrArg Prod.fst hadd, if_neg (Nat.not_le.2 hlt)]
    · rw [Pool.connection?, hq.get?_iff.2 (.inl ⟨rfl, rfl⟩)]
      exact List.getElem?_concat_length ..
  · refine ⟨?_, fun k hk => hothers k fun heq => ?_⟩
    · rw [show result.1 = _ from congrArg Prod.fst hadd, if_pos hle]
    · rw [heq] at hk
      exact Nat.not_le.2 hk hle

/-- A connection with the default settings. -/
def newcomer : Blueprint := { endpoint := ⟨"node", 9001⟩ }

/-- A run after which the first of two slots is spare. -/
def vacatedRun : List Operation := [.add ⟨0⟩ newcomer, .add ⟨0⟩ newcomer, .remove ⟨0, 0⟩]

theorem add_cases_vacatedRun :
    let s := run {} vacatedRun
    let idle : Blueprint := { newcomer with config := { newcomer.config with idleTime := .zero } }
    s.Reachable ∧ s.pool.size = 1 ∧
    s.pool.add s.fleet ⟨5⟩ idle = (.error (.zero "idle_time"), s.pool, s.fleet) ∧
    ∃ c q, newcomer.build ⟨5⟩ = .ok c ∧
      s.pool.add s.fleet ⟨5⟩ newcomer = (.ok ⟨0, 1⟩, q, s.fleet ++ [c]) ∧ q.size = 2 ∧
      q.connection? (s.fleet ++ [c]) ⟨0, 1⟩ = some c ∧
      q.connection? (s.fleet ++ [c]) ⟨1, 0⟩ = s.pool.connection? s.fleet ⟨1, 0⟩ := by
  intro s idle
  have hs : s.Reachable := Reachable.start.run vacatedRun
  have hsize : s.pool.size = 1 := by decide
  have hanswer : (s.pool.add s.fleet ⟨5⟩ newcomer).1 = .ok ⟨0, 1⟩ := by decide
  obtain ⟨c, q, hc, hadded, hgrown, hjoined, -⟩ :=
    (add_cases hs ⟨5⟩ newcomer).2 (Config.fault?_eq_none_iff.1 (by decide))
  obtain ⟨h, hh, -, hfound, hothers⟩ := hjoined (by decide)
  obtain rfl : h = ⟨0, 1⟩ := Except.ok.inj (hh.symm.trans hanswer)
  exact ⟨hs, hsize, (add_cases hs ⟨5⟩ idle).1 _ (by decide), c, q, hc, Prod.ext hanswer hadded,
    by rw [hgrown, hsize], hfound, hothers ⟨1, 0⟩ (by decide)⟩

/-! ### A pool that is full -/

/-- A number of connections that were added to an empty pool. -/
def crowd (n : Nat) : PoolState := run {} (List.replicate n (.add ⟨0⟩ newcomer))

theorem crowd_succ (n : Nat) : crowd (n + 1) = (crowd n).step (.add ⟨0⟩ newcomer) := by
  rw [crowd, List.replicate_succ', run, List.foldl_append]
  rfl

theorem reachable_crowd (n : Nat) : (crowd n).Reachable := Reachable.start.run _

/-- After additions alone, the next slot is a new one. -/
theorem crowded (n : Nat) : (crowd n).closing = none ∧ (crowd n).pool.spare = [] ∧
    (crowd n).pool.slots.length = n := by
  induction n with
  | zero => exact ⟨rfl, rfl, rfl⟩
  | succ n ih =>
      obtain ⟨hclosing, hspare, hlength⟩ := ih
      obtain ⟨c, hc⟩ : ∃ c, newcomer.build ⟨0⟩ = .ok c := ⟨_, rfl⟩
      have hstep : crowd (n + 1) = (crowd n).add ⟨0⟩ newcomer := by
        rw [crowd_succ, step, isOpen, hclosing]
        rfl
      have hpool : (crowd (n + 1)).pool = { (crowd n).pool with
          spare := []
          slots := (crowd n).pool.slots ++ [{ member := some (crowd n).fleet.length }] } := by
        rw [hstep, add, Pool.add, hc]
        simp only [Pool.insert, hspare]
        split <;> rfl
      refine ⟨?_, by rw [hpool], ?_⟩
      · rw [hstep]
        exact hclosing
      · rw [hpool, List.length_append, hlength, List.length_singleton]

theorem nextSlot_crowd (n : Nat) : (crowd n).pool.nextSlot = n := by
  obtain ⟨-, hspare, hlength⟩ := crowded n
  rw [Pool.nextSlot, hspare, hlength, List.head?_nil, Option.getD_none]

/-- **A connection is added although the pool is full.**  When as many connections were added as
there are indices for handles, a further addition is answered with an error and leaves one member
more in the pool. -/
theorem added_though_full :
    let s := crowd Pool.wordSize
    s.Reachable ∧ ∃ q g, s.pool.add s.fleet ⟨0⟩ newcomer = (.error .poolFull, q, g) ∧
      q ≠ s.pool ∧ q.size = s.pool.size + 1 ∧ g.length = s.fleet.length + 1 := by
  intro s
  have hs : s.Reachable := reachable_crowd _
  obtain ⟨c, hc⟩ : ∃ c, newcomer.build ⟨0⟩ = .ok c := ⟨_, rfl⟩
  obtain ⟨generation, q, hadd, hq⟩ := add_eq hs hc
  have hgrown : q.size = s.pool.size + 1 := hq.size_eq
  rw [if_pos (Nat.le_of_eq (nextSlot_crowd _).symm)] at hadd
  refine ⟨hs, q, s.fleet ++ [c], hadd, fun heq => ?_, hgrown, List.length_append⟩
  rw [heq] at hgrown
  omega

end PoolState

end Uplink
