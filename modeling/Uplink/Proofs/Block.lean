/-
The life of a receive block.

A block is filled, given more room, read from, emptied and released, in any order and any number of
times.  Two things are kept apart: the bytes, which only a fill adds to and only emptying takes
away, and the size, which only making room changes, until a release sets it back.

* `Uplink.ReceiveBlock.Use`, `Uplink.ReceiveBlock.run` — what is done to a block, one after the
  other;
* `Uplink.ReceiveBlock.Sound.reserve_eq_error_iff` — when no room can be made;
* `Uplink.ReceiveBlock.writes`, `Uplink.ReceiveBlock.held_run` — **what is held is what was
  written**;
* `Uplink.ReceiveBlock.Grown` — the size is the first one, doubled some times, up to the ceiling;
* `Uplink.ReceiveBlock.Grown.after`, `Uplink.ReceiveBlock.Grown.run` — **each growth is one more
  doubling**.

Main result: `Uplink.ReceiveBlock.bounded_throughout`.
-/

import Mathlib.Data.Int.Log
import Mathlib.Data.List.Induction
import Mathlib.Data.Rat.Floor
import Uplink.ReceiveBlock

set_option relaxedAutoImplicit false
set_option autoImplicit false

namespace Uplink

namespace ReceiveBlock

variable {b : ReceiveBlock} {fault : ProtocolFault} {first top k : Nat}

/-! ### Using a block -/

/-- What is done to a block. -/
inductive Use
  /-- Bytes are written where there is room. -/
  | fill (bytes : Bytes)
  /-- Room is made for the next read. -/
  | reserve
  /-- The first bytes are copied out. -/
  | take (length : Nat)
  /-- The block is emptied. -/
  | reset
  /-- The block is emptied and gives its memory back. -/
  | release
deriving DecidableEq, Repr

/-- The block is empty afterwards. -/
def Use.empties : Use → Bool
  | reset | release => true
  | _ => false

/-- The block after a use; if no room can be made, it stays as it is. -/
def after (b : ReceiveBlock) : Use → ReceiveBlock
  | .fill bytes => b.fill bytes
  | .reserve =>
      match b.reserve with
      | .ok b' => b'
      | .error _ => b
  | .take _ => b
  | .reset => b.reset
  | .release => b.release

/-- The block after some uses. -/
def run (b : ReceiveBlock) : List Use → ReceiveBlock
  | [] => b
  | use :: uses => (b.after use).run uses

/-- The bytes that a use writes into the block. -/
def written (b : ReceiveBlock) : Use → Bytes
  | .fill bytes => bytes.take b.room
  | _ => []

/-- The bytes that are written in the course of some uses. -/
def writes (b : ReceiveBlock) : List Use → Bytes
  | [] => []
  | use :: uses => b.written use ++ (b.after use).writes uses

/-- How often the block grows in the course of some uses. -/
def growths (b : ReceiveBlock) : List Use → Nat
  | [] => 0
  | use :: uses => (if b.size < (b.after use).size then 1 else 0) + (b.after use).growths uses

theorem run_append (b : ReceiveBlock) (uses more : List Use) :
    b.run (uses ++ more) = (b.run uses).run more := by
  induction uses generalizing b with
  | nil => rfl
  | cons use uses ih => exact ih (b.after use)

/-! ### Making room -/

/-- No more room is made where there is some. -/
theorem reserve_of_room (h : 0 < b.room) : b.reserve = .ok b := by
  unfold room at h
  exact if_pos (by omega)

/-- No room is made exactly when the block is full at its ceiling. -/
theorem Sound.reserve_eq_error_iff (h : b.Sound) : b.reserve = .error fault ↔
    fault = .blockFull b.ceiling ∧ b.held.length = b.size ∧ b.size = b.ceiling := by
  have hheld := h.held_le
  have hsize := h.size_le
  obtain ⟨hroom, heq⟩ | ⟨-, hlt, heq⟩ | ⟨hfull, htop, heq⟩ := b.reserve_cases
  · simp only [heq, reduceCtorEq, false_iff]
    omega
  · simp only [heq, reduceCtorEq, false_iff]
    omega
  · rw [heq, Except.error.injEq, eq_comm]
    exact ⟨fun hfault => ⟨hfault, by omega, by omega⟩, fun hfault => hfault.1⟩

/-! ### The bytes -/

theorem held_after {use : Use} (h : use.empties = false) :
    (b.after use).held = b.held ++ b.written use := by
  cases use with
  | fill bytes => rfl
  | reserve =>
      refine Eq.trans ?_ (List.append_nil _).symm
      rw [after]
      cases hr : b.reserve with
      | ok b' => exact held_reserve hr
      | error fault => rfl
  | take length => exact (List.append_nil _).symm
  | reset => cases h
  | release => cases h

theorem held_of_empties {use : Use} (h : use.empties = true) : (b.after use).held = [] := by
  cases use with
  | reset | release => rfl
  | fill bytes => cases h
  | reserve => cases h
  | take length => cases h

/-- **What is held is what was written**, after what was there before. -/
theorem held_run {uses : List Use} (h : ∀ use ∈ uses, use.empties = false) :
    (b.run uses).held = b.held ++ b.writes uses := by
  induction uses generalizing b with
  | nil => exact (List.append_nil _).symm
  | cons use uses ih =>
      have huse := h use List.mem_cons_self
      rw [run, ih fun u hu => h u (List.mem_cons_of_mem _ hu), held_after huse, List.append_assoc,
        writes]

/-- Any uses end in a stretch that empties nothing, which starts at the front or right after the
block was emptied. -/
theorem exists_stretch (uses : List Use) : ∃ early late, uses = early ++ late ∧
    (early = [] ∨ ∃ before use, early = before ++ [use] ∧ use.empties = true) ∧
    ∀ use ∈ late, use.empties = false := by
  induction uses using List.reverseRecOn with
  | nil => exact ⟨[], [], rfl, .inl rfl, nofun⟩
  | append_singleton uses use ih =>
      cases huse : use.empties with
      | true => exact ⟨uses ++ [use], [], (List.append_nil _).symm, .inr ⟨_, _, rfl, huse⟩, nofun⟩
      | false =>
          obtain ⟨early, late, rfl, hearly, hlate⟩ := ih
          refine ⟨early, late ++ [use], List.append_assoc .., hearly, fun u hu => ?_⟩
          rcases List.mem_append.1 hu with hu | hu
          · exact hlate u hu
          · rw [List.mem_singleton.1 hu, huse]

/-! ### The size -/

theorem Sound.after (h : b.Sound) (use : Use) : (b.after use).Sound := by
  cases use with
  | fill bytes => exact h.fill bytes
  | reserve =>
      rw [ReceiveBlock.after]
      cases hr : b.reserve with
      | ok b' => exact h.reserve hr
      | error fault => exact h
  | take length => exact h
  | reset => exact h.reset
  | release => exact h.release

/-- The size is the first one, doubled `k` times, up to the ceiling; so many doublings may be
needed. -/
structure Grown (first top k : Nat) (b : ReceiveBlock) : Prop where
  sound : b.Sound
  initial_eq : b.initial = first
  ceiling_eq : b.ceiling = top
  size_eq : b.size = min (first * 2 ^ k) top
  le_clog : (k : ℤ) ≤ Int.clog 2 (top / first : ℚ)

/-- Below the ceiling, one more doubling is needed. -/
theorem lt_clog (hpos : 0 < first) (hlt : first * 2 ^ k < top) :
    (k : ℤ) < Int.clog 2 (top / first : ℚ) := by
  have hfirst : (0 : ℚ) < first := by exact_mod_cast hpos
  have htop : (0 : ℚ) < top := by exact_mod_cast Nat.lt_of_le_of_lt (Nat.zero_le _) hlt
  have hratio : ((2 : ℕ) : ℚ) ^ (k : ℤ) < top / first := by
    rw [zpow_natCast, lt_div_iff₀ hfirst, mul_comm]
    exact_mod_cast hlt
  exact (Int.zpow_lt_iff_lt_clog (by decide) (div_pos htop hfirst)).1 hratio

theorem clog_nonneg (hpos : 0 < first) (hle : first ≤ top) :
    0 ≤ Int.clog 2 (top / first : ℚ) := by
  have hfirst : (0 : ℚ) < first := by exact_mod_cast hpos
  have hratio : (1 : ℚ) ≤ top / first := by
    rw [le_div_iff₀ hfirst, one_mul]
    exact_mod_cast hle
  rw [Int.clog_of_one_le_right 2 hratio]
  exact Int.natCast_nonneg _

/-- A block of its first size has not grown. -/
theorem grown_zero (h : b.Sound) (hsize : b.size = b.initial) :
    Grown b.initial b.ceiling 0 b where
  sound := h
  initial_eq := rfl
  ceiling_eq := rfl
  size_eq := by
    have hle := h.size_le
    rw [Nat.pow_zero, Nat.mul_one]
    omega
  le_clog := by
    have hle := h.size_le
    rw [hsize] at hle
    exact clog_nonneg h.initial_pos hle

theorem grown_new (initial ceiling : Nat) :
    Grown (max initial 1) (max ceiling (max initial 1)) 0 (new initial ceiling) :=
  grown_zero (sound_new initial ceiling) rfl

/-- A release undoes every growth. -/
theorem Grown.release (h : b.Grown first top k) : b.release.Grown first top 0 := by
  have hgrown := grown_zero h.sound.release rfl
  rwa [show b.release.initial = first from h.initial_eq,
    show b.release.ceiling = top from h.ceiling_eq] at hgrown

/-- A block that grows is below its ceiling, and doubled once more. -/
theorem Grown.grow (h : b.Grown first top k) (hlt : b.size < b.ceiling) :
    Grown first top (k + 1) { b with size := min (b.size * 2) b.ceiling } := by
  have hheld := h.sound.held_le
  have hpos := h.sound.initial_pos
  have hinitial := h.sound.initial_le
  have hsize := h.size_eq
  have hceiling := h.ceiling_eq
  have hbelow : first * 2 ^ k < top := by omega
  refine ⟨⟨?_, ?_, ?_, hpos⟩, h.initial_eq, hceiling, ?_, ?_⟩
  · simp only
    omega
  · simp only
    omega
  · exact Nat.min_le_right _ _
  · rw [Nat.pow_succ, ← Nat.mul_assoc]
    simp only
    omega
  · rw [h.initial_eq] at hpos
    exact lt_clog hpos hbelow

/-- **Each growth is one more doubling.** -/
theorem Grown.after (h : b.Grown first top k) {use : Use} (huse : use ≠ .release) :
    (b.after use).Grown first top (k + if b.size < (b.after use).size then 1 else 0) := by
  -- Every use but one that makes the block grow leaves the three numbers alone.
  have hsame (hinitial : (b.after use).initial = b.initial)
      (hceiling : (b.after use).ceiling = b.ceiling) (hsize : (b.after use).size = b.size) :
      (b.after use).Grown first top (k + if b.size < (b.after use).size then 1 else 0) := by
    rw [hsize, if_neg (Nat.lt_irrefl _), Nat.add_zero]
    exact ⟨h.sound.after use, hinitial.trans h.initial_eq, hceiling.trans h.ceiling_eq,
      hsize.trans h.size_eq, h.le_clog⟩
  cases use with
  | fill bytes => exact hsame rfl rfl rfl
  | take length => exact hsame rfl rfl rfl
  | reset => exact hsame rfl rfl rfl
  | release => exact absurd rfl huse
  | reserve =>
      obtain ⟨-, heq⟩ | ⟨-, hlt, heq⟩ | ⟨-, -, heq⟩ := b.reserve_cases
      · have hafter : b.after .reserve = b := by rw [ReceiveBlock.after, heq]
        exact hsame (by rw [hafter]) (by rw [hafter]) (by rw [hafter])
      · have hafter : b.after .reserve = { b with size := min (b.size * 2) b.ceiling } := by
          rw [ReceiveBlock.after, heq]
        have hpos := h.sound.initial_pos
        have hle := h.sound.initial_le
        rw [hafter, if_pos (by simp only; omega)]
        exact h.grow hlt
      · have hafter : b.after .reserve = b := by rw [ReceiveBlock.after, heq]
        exact hsame (by rw [hafter]) (by rw [hafter]) (by rw [hafter])

/-- **As many doublings as growths**, as long as the block is not released. -/
theorem Grown.run (h : b.Grown first top k) {uses : List Use} (huses : .release ∉ uses) :
    (b.run uses).Grown first top (k + b.growths uses) := by
  induction uses generalizing b k with
  | nil => exact h
  | cons use uses ih =>
      rw [List.mem_cons, not_or] at huses
      rw [growths, ← Nat.add_assoc]
      exact ih (h.after (Ne.symm huses.1)) huses.2

theorem Grown.exists_run (h : b.Grown first top k) (uses : List Use) :
    ∃ k, (b.run uses).Grown first top k := by
  induction uses generalizing b k with
  | nil => exact ⟨k, h⟩
  | cons use uses ih =>
      by_cases huse : use = .release
      · rw [huse]
        exact ih h.release
      · exact ih (h.after huse)

/-! ### Every run -/

/-- **A block is bounded throughout, and holds what was written**, whatever its sizes are and
whatever is done to it.  The bytes fit the size, and the size is the first one, doubled some times,
up to the ceiling.  The bytes are those that were written since the block was last emptied, in
order.  Room that is made is room for a byte; it leaves the bytes alone, and making it again changes
nothing.  It cannot be made exactly when the block is full at its ceiling, and then nothing changes.
Without a release the block grows at most as often as it takes to double the first size up to the
ceiling, which is the logarithm of their ratio, rounded up. -/
theorem bounded_throughout (initial ceiling : Nat) (uses : List Use) :
    let first := max initial 1
    let top := max ceiling first
    let b := (new initial ceiling).run uses
    b.held.length ≤ b.size ∧ first ≤ b.size ∧ b.size ≤ top ∧
    (∃ k, b.size = min (first * 2 ^ k) top) ∧
    (∃ early late, uses = early ++ late ∧
      (early = [] ∨ ∃ before use, early = before ++ [use] ∧ use.empties = true) ∧
      (∀ use ∈ late, use.empties = false) ∧
      b.held = ((new initial ceiling).run early).writes late) ∧
    (∀ b', b.reserve = .ok b' → 0 < b'.room ∧ b'.held = b.held ∧ b'.reserve = .ok b') ∧
    (∀ fault, b.reserve = .error fault ↔
      fault = .blockFull top ∧ b.held.length = b.size ∧ b.size = top) ∧
    (b.held.length = b.size ∧ b.size = top → b.after .reserve = b) ∧
    (∀ more, .release ∉ more → (b.growths more : ℤ) ≤ Int.clog 2 (top / first : ℚ)) := by
  intro first top b
  obtain ⟨k, hgrown⟩ := (grown_new initial ceiling).exists_run uses
  have hsound : b.Sound := hgrown.sound
  have hinitial : b.initial = first := hgrown.initial_eq
  have hceiling : b.ceiling = top := hgrown.ceiling_eq
  have herror (fault : ProtocolFault) : b.reserve = .error fault ↔
      fault = .blockFull top ∧ b.held.length = b.size ∧ b.size = top := by
    rw [hsound.reserve_eq_error_iff, hceiling]
  refine ⟨hsound.held_le, hinitial ▸ hsound.initial_le, hceiling ▸ hsound.size_le,
    ⟨k, hgrown.size_eq⟩, ?_, fun b' hr => ?_, herror, fun hfull => ?_, fun more hmore => ?_⟩
  · obtain ⟨early, late, huses, hearly, hlate⟩ := exists_stretch uses
    refine ⟨early, late, huses, hearly, hlate, ?_⟩
    have hempty : ((new initial ceiling).run early).held = [] := by
      rcases hearly with rfl | ⟨before, use, rfl, huse⟩
      · rfl
      · rw [run_append]
        exact held_of_empties huse
    calc b.held = (((new initial ceiling).run early).run late).held := by
          rw [← run_append, ← huses]
      _ = ((new initial ceiling).run early).writes late := by
          rw [held_run hlate, hempty, List.nil_append]
  · have hroom := hsound.room_pos hr
    exact ⟨hroom, held_reserve hr, reserve_of_room hroom⟩
  · have hr := (herror (.blockFull top)).2 ⟨rfl, hfull⟩
    rw [after, hr]
  · have hle := (hgrown.run hmore).le_clog
    rw [Int.natCast_add] at hle
    exact Int.le_trans (Int.le_add_of_nonneg_left (Int.natCast_nonneg k)) hle

/-- A block of one byte that may grow to three, and is filled up. -/
theorem bounded_throughout_short :
    let uses : List Use := [.fill [7], .reserve, .fill [8, 9], .reserve, .fill [9], .take 2]
    let b := (new 0 3).run uses
    b.held = [7, 8, 9] ∧ b.reserve = .error (.blockFull 3) ∧ b.after .reserve = b ∧
      (∃ b', ((new 0 3).run [.fill [7]]).reserve = .ok b' ∧ 0 < b'.room ∧ b'.held = [7] ∧
        b'.reserve = .ok b') ∧
      (new 0 3).growths uses = 2 ∧ (2 : ℤ) ≤ Int.clog 2 ((3 : ℕ) / (1 : ℕ) : ℚ) := by
  intro uses b
  obtain ⟨-, -, -, -, -, -, herror, hkept, -⟩ := bounded_throughout 0 3 uses
  obtain ⟨-, -, -, -, -, hroom, -⟩ := bounded_throughout 0 3 [.fill [7]]
  obtain ⟨-, -, -, -, -, -, -, -, hgrowths⟩ := bounded_throughout 0 3 []
  have hcount : (new 0 3).growths uses = 2 := by decide
  have hle := hgrowths uses (by decide)
  rw [show ((new 0 3).run []).growths uses = 2 from hcount] at hle
  exact ⟨by decide, (herror _).2 (by decide), hkept (by decide), ⟨_, rfl, hroom _ rfl⟩, hcount, hle⟩

end ReceiveBlock

end Uplink
