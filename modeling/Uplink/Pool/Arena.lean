/-
The members of a pool.

A pool is an arena of slots.  A handle names a slot and the generation of its present member, so
that a handle to a removed member never leads to its successor.  Members are known by number here;
what they are is of no concern.

* `Uplink.PoolHandle`, `Uplink.Slot`, `Uplink.Pool` — handles, slots and pools;
* `Uplink.Slot.handle` — the handle of a slot, which has 32 bits for its index;
* `Uplink.Pool.insert`, `Uplink.Pool.get?`, `Uplink.Pool.remove` — members come, are found and go;
* `Uplink.Pool.entries` — the members with their handles, in the order of the slots;
* `Uplink.Pool.selectFree` — takes turns among the members that are free;
* `Uplink.Pool.choose` — the member that takes the next write.
-/

import Uplink.Error

set_option relaxedAutoImplicit false
set_option autoImplicit false

namespace Uplink

/-- The name of a member: its slot and the generation of that slot, in 32 bits each. -/
structure PoolHandle where
  /-- The slot. -/
  index : Nat
  /-- The generation. -/
  generation : Nat
deriving DecidableEq, Repr

/-- A place for a member. -/
structure Slot where
  /-- How often a member has left. -/
  generation : Nat := 0
  /-- The number of the member, if there is one. -/
  member : Option Nat
deriving DecidableEq, Repr

/-- An arena of members. -/
structure Pool where
  /-- The slots. -/
  slots : List Slot := []
  /-- The slots without a member, the next to be used first. -/
  spare : List Nat := []
  /-- The slot at which the search for a free member starts. -/
  cursor : Nat := 0
deriving DecidableEq, Repr

/-- Generations and slots are counted in 32 bits. -/
def Pool.wordSize : Nat := 4294967296

/-- The handle of the member in a slot.  An index that no handle can hold is cut, and then it is the
one of another slot. -/
def Slot.handle (slot : Slot) (index : Nat) : PoolHandle := ⟨index % Pool.wordSize, slot.generation⟩

namespace Pool

/-- The generation after another one. -/
def nextGeneration (generation : Nat) : Nat := (generation + 1) % wordSize

/-! ### Members -/

/-- Puts a member into a spare slot, or into a new one.  A slot whose index no handle can hold makes
the pool full. -/
def insert (p : Pool) (member : Nat) : Except ConfigFault PoolHandle × Pool :=
  let (index, p) :=
    match p.spare with
    | index :: spare =>
        (index, { p with
          spare
          slots := p.slots.modify index fun s => { s with member := some member } })
    | [] => (p.slots.length, { p with slots := p.slots ++ [{ member := some member }] })
  if wordSize ≤ index then (.error .poolFull, p)
  else (.ok ⟨index, ((p.slots[index]?).map Slot.generation).getD 0⟩, p)

/-- The member that a handle names. -/
def get? (p : Pool) (h : PoolHandle) : Option Nat :=
  match p.slots[h.index]? with
  | some slot => if slot.generation = h.generation then slot.member else none
  | none => none

/-- Takes out the member that a handle names. -/
def remove (p : Pool) (h : PoolHandle) : Option (Nat × Pool) :=
  (p.get? h).map fun member =>
    (member, { p with
      slots := p.slots.modify h.index fun s => ⟨nextGeneration s.generation, none⟩
      spare := h.index :: p.spare })

theorem remove_eq_none_iff {p : Pool} {h : PoolHandle} : p.remove h = none ↔ p.get? h = none := by
  simp [remove]

/-- Takes out every member. -/
def clear (p : Pool) : Pool :=
  { p with
    slots := p.slots.map fun s =>
      if s.member.isSome then ⟨nextGeneration s.generation, none⟩ else s
    -- The slots are used again from the last one down.
    spare := (List.range p.slots.length).reverse }

/-- The entry of a slot. -/
def entry? (slot : Slot) (index : Nat) : Option (PoolHandle × Nat) :=
  slot.member.map fun member => (slot.handle index, member)

/-- The members with their handles, in the order of the slots. -/
def entries (p : Pool) : List (PoolHandle × Nat) :=
  p.slots.zipIdx.filterMap fun (slot, index) => entry? slot index

/-- The number of members. -/
def size (p : Pool) : Nat := p.entries.length

/-! ### Choosing a member -/

/-- The indices of the slots in the order in which the search for a free member goes. -/
def searchOrder (p : Pool) : List Nat :=
  (List.range p.slots.length).map fun offset => (p.cursor + offset) % p.slots.length

/-- The slot with an index, and that index. -/
def slotAt? (p : Pool) (index : Nat) : Option (Slot × Nat) := (p.slots[index]?).map (·, index)

/-- The next free member.  The search starts where the last one ended. -/
def selectFree (p : Pool) (isFree : Nat → Bool) : Option PoolHandle × Pool :=
  match (p.searchOrder.filterMap p.slotAt?).find? fun place => place.1.member.any isFree with
  | some (slot, index) =>
      (some (slot.handle index), { p with cursor := (index + 1) % p.slots.length })
  | none => (none, p)

/-- The first entry with the smallest load. -/
def lightest : List (PoolHandle × Nat) → Option (PoolHandle × Nat)
  | [] => none
  | e :: rest =>
      match lightest rest with
      | some best => if best.2 < e.2 then some best else some e
      | none => some e

/-- The member that takes the next write: one that is free, else the one with the smallest load
among those that have a load at all.  One handle may be excluded. -/
def choose (p : Pool) (isFree : Nat → Bool) (load? : Nat → Option Nat)
    (excluded : Option PoolHandle) : Option PoolHandle × Pool :=
  -- The search moves the cursor even when what it finds is excluded.
  let (free, p) := p.selectFree isFree
  match free.filter (some · ≠ excluded) with
  | some h => (some h, p)
  | none =>
      let loads := p.entries.filterMap fun (h, member) =>
        if some h = excluded then none else (load? member).map fun load => (h, load)
      ((lightest loads).map (·.1), p)

end Pool

end Uplink
