/-
The block that responses are read into.

A block holds the bytes of one response.  It has a usable size, which doubles when a response does
not fit and stops at a ceiling; between responses it is emptied and keeps its size.

* `Uplink.ReceiveBlock` — the block;
* `Uplink.ReceiveBlock.reserve`, `Uplink.ReceiveBlock.reserve_cases` — makes room for the next
  read, or reports the full block;
* `Uplink.ReceiveBlock.fill` — appends what fits;
* `Uplink.ReceiveBlock.Sound` — the bytes fit the size and the size fits the ceiling; every
  operation keeps it.
-/

import Uplink.Error

set_option relaxedAutoImplicit false
set_option autoImplicit false

namespace Uplink

/-- The bytes of one response and the room for more. -/
structure ReceiveBlock where
  /-- The bytes received so far. -/
  held : Bytes
  /-- The usable size. -/
  size : Nat
  /-- The size of a fresh block. -/
  initial : Nat
  /-- The largest size. -/
  ceiling : Nat
deriving DecidableEq, Repr

namespace ReceiveBlock

/-- An empty block of `initial` bytes, at least one, that may grow to `ceiling`. -/
def new (initial ceiling : Nat) : ReceiveBlock where
  held := []
  size := max initial 1
  initial := max initial 1
  ceiling := max ceiling (max initial 1)

/-- Bytes that fit before the block has to grow. -/
def room (b : ReceiveBlock) : Nat := b.size - b.held.length

/-- Makes room for the next read, doubling a full block; a block that is full at its ceiling is
reported. -/
def reserve (b : ReceiveBlock) : Except ProtocolFault ReceiveBlock :=
  if b.held.length < b.size then .ok b
  else if b.ceiling ≤ b.size then .error (.blockFull b.ceiling)
  else .ok { b with size := min (b.size * 2) b.ceiling }

/-- Appends as many bytes as there is room for. -/
def fill (b : ReceiveBlock) (bytes : Bytes) : ReceiveBlock :=
  { b with held := b.held ++ bytes.take b.room }

/-- The first `length` bytes, which stay in the block. -/
def takeFrame (b : ReceiveBlock) (length : Nat) : Bytes := b.held.take length

/-- Empties the block and keeps its size. -/
def reset (b : ReceiveBlock) : ReceiveBlock := { b with held := [] }

/-- Empties the block and returns to its first size. -/
def release (b : ReceiveBlock) : ReceiveBlock := { b with held := [], size := b.initial }

@[simp] theorem held_new (initial ceiling : Nat) : (new initial ceiling).held = [] := rfl

@[simp] theorem held_reset (b : ReceiveBlock) : b.reset.held = [] := rfl

@[simp] theorem held_release (b : ReceiveBlock) : b.release.held = [] := rfl

/-- The three outcomes of making room: there is room, the block grows, or it is full for good. -/
theorem reserve_cases (b : ReceiveBlock) :
    b.held.length < b.size ∧ b.reserve = .ok b ∨
      b.size ≤ b.held.length ∧ b.size < b.ceiling ∧
        b.reserve = .ok { b with size := min (b.size * 2) b.ceiling } ∨
      b.size ≤ b.held.length ∧ b.ceiling ≤ b.size ∧ b.reserve = .error (.blockFull b.ceiling) := by
  unfold reserve
  by_cases hroom : b.held.length < b.size
  · exact .inl ⟨hroom, if_pos hroom⟩
  · rw [if_neg hroom]
    by_cases hfull : b.ceiling ≤ b.size
    · exact .inr (.inr ⟨Nat.le_of_not_lt hroom, hfull, if_pos hfull⟩)
    · exact .inr (.inl ⟨Nat.le_of_not_lt hroom, Nat.lt_of_not_le hfull, if_neg hfull⟩)

/-- Making room leaves the bytes alone. -/
theorem held_reserve {b b' : ReceiveBlock} (h : b.reserve = .ok b') : b'.held = b.held := by
  obtain ⟨-, heq⟩ | ⟨-, -, heq⟩ | ⟨-, -, heq⟩ := b.reserve_cases <;> cases h.symm.trans heq
  · rfl
  · rfl

/-! ### What every operation keeps -/

/-- The bytes fit the size, and the size lies between the first one and the ceiling. -/
structure Sound (b : ReceiveBlock) : Prop where
  /-- The bytes fit. -/
  held_le : b.held.length ≤ b.size
  /-- A block never shrinks below its first size. -/
  initial_le : b.initial ≤ b.size
  /-- A block never grows beyond its ceiling. -/
  size_le : b.size ≤ b.ceiling
  /-- A block is never empty room. -/
  initial_pos : 0 < b.initial

theorem sound_new (initial ceiling : Nat) : (new initial ceiling).Sound := by
  constructor <;> simp only [new, List.length_nil] <;> omega

theorem Sound.fill {b : ReceiveBlock} (h : b.Sound) (bytes : Bytes) : (b.fill bytes).Sound where
  held_le := by
    have := h.held_le
    simp only [ReceiveBlock.fill, List.length_append, List.length_take, room]
    omega
  initial_le := h.initial_le
  size_le := h.size_le
  initial_pos := h.initial_pos

theorem Sound.reserve {b b' : ReceiveBlock} (h : b.Sound) (hr : b.reserve = .ok b') : b'.Sound := by
  have h₁ := h.held_le
  have h₂ := h.initial_le
  have h₃ := h.initial_pos
  obtain ⟨-, heq⟩ | ⟨-, hlt, heq⟩ | ⟨-, -, heq⟩ := b.reserve_cases <;> cases hr.symm.trans heq
  · exact h
  · constructor <;> simp <;> omega

/-- Room that was made is room for a byte. -/
theorem Sound.room_pos {b b' : ReceiveBlock} (h : b.Sound) (hr : b.reserve = .ok b') :
    0 < b'.room := by
  have h₁ := h.held_le
  have h₂ := h.initial_le
  have h₃ := h.initial_pos
  unfold room
  obtain ⟨hroom, heq⟩ | ⟨-, hlt, heq⟩ | ⟨-, -, heq⟩ := b.reserve_cases <;>
    cases hr.symm.trans heq
  · omega
  · simp only
    omega

theorem Sound.reset {b : ReceiveBlock} (h : b.Sound) : b.reset.Sound :=
  ⟨Nat.zero_le _, h.initial_le, h.size_le, h.initial_pos⟩

theorem Sound.release {b : ReceiveBlock} (h : b.Sound) : b.release.Sound :=
  ⟨Nat.zero_le _, Nat.le_refl _, Nat.le_trans h.initial_le h.size_le, h.initial_pos⟩

end ReceiveBlock

end Uplink
