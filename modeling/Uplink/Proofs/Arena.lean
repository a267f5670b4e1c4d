/-
The slots of a pool.

Members come into slots that are spare, or into new ones, and leave them again.  What an operation
does is told here slot by slot: it concerns one slot, or all of them, and leaves the others alone.
The list of spare slots is exact at any time.

* `Uplink.Pool.mem_entries_iff` — the members are those that handles lead to, **each under the
  handle that leads to it**, as long as handles can name all slots;
* `Uplink.Pool.Tidy` — the spare slots are those without a member, each once;
* `Uplink.Pool.Taken`, `Uplink.Pool.insert_eq` — a member comes into a slot;
* `Uplink.Pool.Vacated`, `Uplink.Pool.vacated_of_remove` — a member leaves its slot;
* `Uplink.Pool.Taken.tidy`, `Uplink.Pool.Vacated.tidy`, `Uplink.Pool.tidy_clear` — **all of them
  keep the list of spare slots exact**.
-/

import Mathlib.Data.List.Nodup
import Uplink.Pool.Arena

set_option relaxedAutoImplicit false
set_option autoImplicit false

namespace Uplink

/-- A handle names its slot, if it can. -/
theorem Slot.index_handle (slot : Slot) {index : Nat} (hi : index < Pool.wordSize) :
    (slot.handle index).index = index := Nat.mod_eq_of_lt hi

namespace Pool

variable {p q : Pool} {h : PoolHandle} {member index generation : Nat}

/-! ### Handles and members -/

theorem get?_eq_some_iff :
    p.get? h = some member ↔ p.slots[h.index]? = some ⟨h.generation, some member⟩ := by
  unfold get?
  cases p.slots[h.index]? with
  | none => simp
  | some slot =>
      obtain ⟨generation, occupant⟩ := slot
      by_cases hg : generation = h.generation <;> simp [hg]

/-- The members are what the slots hold, each under the handle of its slot. -/
theorem mem_entries_iff_exists : (h, member) ∈ p.entries ↔
    ∃ (index : Nat) (slot : Slot), p.slots[index]? = some slot ∧ slot.member = some member ∧
      slot.handle index = h := by
  rw [entries, List.mem_filterMap]
  constructor
  · rintro ⟨⟨slot, index⟩, hmem, hentry⟩
    obtain ⟨occupant, hoccupant, heq⟩ := Option.map_eq_some_iff.1 hentry
    cases heq
    exact ⟨index, slot, List.mem_zipIdx_iff_getElem?.1 hmem, hoccupant, rfl⟩
  · rintro ⟨index, slot, hslot, hmember, rfl⟩
    exact ⟨(slot, index), List.mem_zipIdx_iff_getElem?.2 hslot, by simp [hmember, entry?]⟩

/-- A handle leads to the member of the slot that it was made for, if it names that slot. -/
theorem get?_handle {slot : Slot} (hslot : p.slots[index]? = some slot) (hi : index < wordSize) :
    p.get? (slot.handle index) = slot.member := by
  rw [get?, slot.index_handle hi, hslot]
  exact if_pos rfl

/-- The members are those that handles lead to, as long as handles can name all slots. -/
theorem mem_entries_iff (hp : p.slots.length ≤ wordSize) :
    (h, member) ∈ p.entries ↔ p.get? h = some member := by
  rw [mem_entries_iff_exists]
  constructor
  · rintro ⟨index, slot, hslot, hmember, rfl⟩
    obtain ⟨hi, -⟩ := List.getElem?_eq_some_iff.1 hslot
    rw [get?_handle hslot (Nat.lt_of_lt_of_le hi hp), hmember]
  · intro hget
    have hslot := get?_eq_some_iff.1 hget
    obtain ⟨hi, -⟩ := List.getElem?_eq_some_iff.1 hslot
    refine ⟨h.index, _, hslot, rfl, ?_⟩
    rw [Slot.handle, Nat.mod_eq_of_lt (Nat.lt_of_lt_of_le hi hp)]

/-- The slots stand in the order of their indices. -/
theorem pairwise_zipIdx (slots : List Slot) : slots.zipIdx.Pairwise (·.2 < ·.2) := by
  rw [← List.pairwise_map, List.zipIdx_map_snd]
  exact List.pairwise_lt_range'

/-- No two members have a slot in common, as long as handles can name all slots. -/
theorem nodup_entries (hp : p.slots.length ≤ wordSize) :
    (p.entries.map (·.1.index)).Nodup := by
  rw [List.Nodup, List.pairwise_map, entries, List.pairwise_filterMap]
  refine (pairwise_zipIdx p.slots).imp_of_mem fun {a b} ha hb hlt d hd e he => ?_
  have hindex {place : Slot × Nat} (hmem : place ∈ p.slots.zipIdx) {entry : PoolHandle × Nat}
      (hentry : entry? place.1 place.2 = some entry) : entry.1.index = place.2 := by
    obtain ⟨hi, -⟩ := List.getElem?_eq_some_iff.1 (List.mem_zipIdx_iff_getElem?.1 hmem)
    obtain ⟨occupant, -, rfl⟩ := Option.map_eq_some_iff.1 hentry
    exact place.1.index_handle (Nat.lt_of_lt_of_le hi hp)
  rw [hindex ha hd, hindex hb he]
  exact Nat.ne_of_lt hlt

/-- There are as many members as slots that hold one. -/
theorem size_eq (p : Pool) : p.size = p.slots.countP (·.member.isSome) := by
  have hslots := congrArg (List.countP (·.member.isSome)) (List.zipIdx_map_fst 0 p.slots)
  rw [List.countP_map] at hslots
  rw [size, entries, List.length_filterMap_eq_countP, ← hslots]
  exact List.countP_congr fun place _ => by
    simp only [Function.comp_apply, entry?, Option.isSome_map]

/-- What the entries are does not depend on where the search for a free member stands. -/
theorem get?_congr (hs : q.slots = p.slots) : q.get? = p.get? := by
  funext h
  rw [get?, get?, hs]

theorem entries_congr (hs : q.slots = p.slots) : q.entries = p.entries := by
  rw [entries, entries, hs]

/-! ### Spare slots -/

/-- The slot is there, and has no member. -/
def IsVacant (p : Pool) (index : Nat) : Prop :=
  ∃ generation, p.slots[index]? = some ⟨generation, none⟩

/-- The spare slots are those without a member, each once. -/
structure Tidy (p : Pool) : Prop where
  nodup : p.spare.Nodup
  mem_spare_iff : ∀ index, index ∈ p.spare ↔ p.IsVacant index

theorem tidy_empty : ({} : Pool).Tidy := ⟨List.nodup_nil, by simp [IsVacant]⟩

theorem Tidy.congr (ht : p.Tidy) (hs : q.slots = p.slots) (hspare : q.spare = p.spare) :
    q.Tidy where
  nodup := hspare ▸ ht.nodup
  mem_spare_iff index := by
    rw [hspare, IsVacant, hs]
    exact ht.mem_spare_iff index

/-! ### A member comes -/

/-- A slot that was spare or is new has a member, and the others are as they were. -/
structure Taken (p q : Pool) (index generation member : Nat) : Prop where
  /-- The slot was spare, or there was none. -/
  free : p.slots[index]? = some ⟨generation, none⟩ ∧ p.spare = index :: q.spare ∨
    index = p.slots.length ∧ generation = 0 ∧ p.spare = [] ∧ q.spare = []
  /-- Now it has the member. -/
  here : q.slots[index]? = some ⟨generation, some member⟩
  elsewhere : ∀ i, i ≠ index → q.slots[i]? = p.slots[i]?
  length_le : p.slots.length ≤ q.slots.length

/-- **A member comes into one slot.**  Its handle names that slot, unless no handle can. -/
theorem insert_eq (ht : p.Tidy) (member : Nat) : ∃ index generation q,
    p.insert member =
      (if wordSize ≤ index then .error .poolFull else .ok ⟨index, generation⟩, q) ∧
    Taken p q index generation member := by
  cases hspare : p.spare with
  | cons index spare =>
      obtain ⟨generation, hslot⟩ := (ht.mem_spare_iff index).1 (by simp [hspare])
      have hmodified (i : Nat) :
          (p.slots.modify index fun s => { s with member := some member })[i]? =
            if i = index then some ⟨generation, some member⟩ else p.slots[i]? := by
        rw [List.getElem?_modify]
        by_cases heq : i = index
        · subst heq
          simp [hslot]
        · simp [heq, Ne.symm heq]
      refine ⟨index, generation, { p with
        spare, slots := p.slots.modify index fun s => { s with member := some member } }, ?_, ?_⟩
      · simp only [insert, hspare, hmodified, if_true, Option.map_some, Option.getD_some]
        split <;> rfl
      · exact ⟨.inl ⟨hslot, hspare⟩, by simp [hmodified], fun i hi => by simp [hmodified, hi],
          by simp⟩
  | nil =>
      refine ⟨p.slots.length, 0, { p with slots := p.slots ++ [{ member := some member }] }, ?_, ?_⟩
      · simp only [insert, hspare, List.getElem?_concat_length, Option.map_some, Option.getD_some]
        split <;> rfl
      · refine ⟨.inr ⟨rfl, rfl, hspare, hspare⟩, by simp, fun i hi => ?_, by simp⟩
        rcases Nat.lt_or_gt_of_ne hi with hlt | hgt
        · exact List.getElem?_append_left hlt
        · rw [List.getElem?_eq_none (by simp; omega), List.getElem?_eq_none (by omega)]

theorem Taken.vacant_iff (hq : Taken p q index generation member) (i : Nat) :
    q.IsVacant i ↔ i ≠ index ∧ p.IsVacant i := by
  by_cases heq : i = index
  · subst heq
    simp [IsVacant, hq.here]
  · simp [IsVacant, hq.elsewhere i heq, heq]

theorem Taken.tidy (ht : p.Tidy) (hq : Taken p q index generation member) : q.Tidy := by
  rcases hq.free with ⟨hslot, hspare⟩ | ⟨hlength, -, hspare, hspare'⟩
  · obtain ⟨hnot, hnodup⟩ := List.nodup_cons.1 (hspare ▸ ht.nodup)
    refine ⟨hnodup, fun i => ?_⟩
    rw [hq.vacant_iff, ← ht.mem_spare_iff, hspare, List.mem_cons]
    refine ⟨fun hi => ⟨fun heq => hnot (heq ▸ hi), .inr hi⟩, fun ⟨hne, hi⟩ => hi.resolve_left hne⟩
  · refine ⟨hspare' ▸ List.nodup_nil, fun i => ?_⟩
    rw [hq.vacant_iff, ← ht.mem_spare_iff, hspare, hspare']
    simp

/-- The slot that a member comes into has none. -/
theorem Taken.get?_eq_none (hq : Taken p q index generation member) (hi : h.index = index) :
    p.get? h = none := by
  rw [Option.eq_none_iff_forall_ne_some]
  intro n hget
  have hslot := get?_eq_some_iff.1 hget
  rw [hi] at hslot
  rcases hq.free with ⟨hvacant, -⟩ | ⟨rfl, -⟩
  · rw [hslot] at hvacant
    cases hvacant
  · rw [List.getElem?_eq_none (Nat.le_refl _)] at hslot
    cases hslot

/-- The new member is found under its handle, and all others as before. -/
theorem Taken.get?_iff (hq : Taken p q index generation member) {n : Nat} :
    q.get? h = some n ↔ h = ⟨index, generation⟩ ∧ n = member ∨ p.get? h = some n := by
  by_cases hi : h.index = index
  · rw [hq.get?_eq_none hi, get?_eq_some_iff, hi, hq.here]
    obtain ⟨i, g⟩ := h
    cases hi
    simp [eq_comm]
  · rw [get?_eq_some_iff, hq.elsewhere _ hi, ← get?_eq_some_iff, or_iff_right]
    rintro ⟨rfl, -⟩
    exact hi rfl

/-- There is one member more. -/
theorem Taken.size_eq (hq : Taken p q index generation member) : q.size = p.size + 1 := by
  rw [Pool.size_eq, Pool.size_eq]
  rcases hq.free with ⟨hslot, -⟩ | ⟨rfl, -⟩
  · obtain ⟨hi, hget⟩ := List.getElem?_eq_some_iff.1 hslot
    have hslots : q.slots = p.slots.set index ⟨generation, some member⟩ := by
      refine List.ext_getElem? fun i => ?_
      by_cases heq : i = index
      · rw [heq, hq.here, List.getElem?_set_self hi]
      · rw [hq.elsewhere i heq, List.getElem?_set_ne (Ne.symm heq)]
    rw [hslots, List.countP_set hi, hget]
    simp
  · have hslots : q.slots = p.slots ++ [⟨generation, some member⟩] := by
      refine List.ext_getElem? fun i => ?_
      rcases Nat.lt_trichotomy i p.slots.length with hlt | rfl | hgt
      · rw [hq.elsewhere i (Nat.ne_of_lt hlt), List.getElem?_append_left hlt]
      · rw [hq.here, List.getElem?_concat_length]
      · rw [hq.elsewhere i (Nat.ne_of_gt hgt), List.getElem?_eq_none (Nat.le_of_lt hgt),
          List.getElem?_eq_none (by rw [List.length_append]; exact hgt)]
    rw [hslots, List.countP_append]
    simp

/-! ### A member leaves -/

/-- A slot has lost its member, and the others are as they were. -/
structure Vacated (p q : Pool) (h : PoolHandle) : Prop where
  here : q.slots[h.index]? = some ⟨nextGeneration h.generation, none⟩
  elsewhere : ∀ i, i ≠ h.index → q.slots[i]? = p.slots[i]?
  spare_eq : q.spare = h.index :: p.spare
  length_eq : q.slots.length = p.slots.length

/-- **A member leaves one slot**, the one that its handle names. -/
theorem vacated_of_remove (hr : p.remove h = some (member, q)) :
    p.get? h = some member ∧ Vacated p q h := by
  obtain ⟨occupant, hget, heq⟩ := Option.map_eq_some_iff.1 hr
  cases heq
  have hslot := get?_eq_some_iff.1 hget
  refine ⟨hget, ⟨?_, fun i hi => ?_, rfl, by simp⟩⟩
  · simp [hslot]
  · simp [Ne.symm hi]

/-- The member is not found any more, and all others are as before. -/
theorem Vacated.get?_iff (hq : Vacated p q h) {k : PoolHandle} {n : Nat} :
    q.get? k = some n ↔ k.index ≠ h.index ∧ p.get? k = some n := by
  by_cases hi : k.index = h.index
  · rw [get?_eq_some_iff, hi, hq.here]
    simp
  · rw [get?_eq_some_iff, hq.elsewhere _ hi, ← get?_eq_some_iff]
    simp [hi]

theorem Vacated.tidy (ht : p.Tidy) (hget : p.get? h = some member) (hq : Vacated p q h) :
    q.Tidy := by
  have hslot := get?_eq_some_iff.1 hget
  have hnot : h.index ∉ p.spare := fun hmem => by
    obtain ⟨generation, hvacant⟩ := (ht.mem_spare_iff h.index).1 hmem
    rw [hslot] at hvacant
    cases hvacant
  refine ⟨hq.spare_eq ▸ List.nodup_cons.2 ⟨hnot, ht.nodup⟩, fun i => ?_⟩
  rw [hq.spare_eq, List.mem_cons]
  by_cases heq : i = h.index
  · subst heq
    simp [IsVacant, hq.here]
  · rw [ht.mem_spare_iff]
    simp [IsVacant, hq.elsewhere i heq, heq]

/-! ### All members leave -/

theorem getElem?_clear (p : Pool) (i : Nat) : p.clear.slots[i]? = (p.slots[i]?).map fun slot =>
    if slot.member.isSome then ⟨nextGeneration slot.generation, none⟩ else slot := by
  simp [clear]

theorem isVacant_clear (p : Pool) (i : Nat) : p.clear.IsVacant i ↔ i < p.slots.length := by
  rw [IsVacant, getElem?_clear]
  constructor
  · rintro ⟨generation, hslot⟩
    obtain ⟨slot, hslot, -⟩ := Option.map_eq_some_iff.1 hslot
    exact (List.getElem?_eq_some_iff.1 hslot).1
  · intro hi
    rw [List.getElem?_eq_getElem hi, Option.map_some]
    generalize p.slots[i] = slot
    obtain ⟨generation, occupant⟩ := slot
    cases occupant with
    | none => exact ⟨_, rfl⟩
    | some member => exact ⟨_, rfl⟩

/-- After a pool was cleared, no handle leads to a member. -/
theorem get?_clear (p : Pool) (h : PoolHandle) : p.clear.get? h = none := by
  rw [Option.eq_none_iff_forall_ne_some]
  intro member hget
  have hslot := get?_eq_some_iff.1 hget
  obtain ⟨generation, hvacant⟩ :=
    (p.isVacant_clear h.index).2 (by simpa [clear] using (List.getElem?_eq_some_iff.1 hslot).1)
  rw [hslot] at hvacant
  cases hvacant

theorem tidy_clear (p : Pool) : p.clear.Tidy where
  nodup := List.nodup_reverse.2 List.nodup_range
  mem_spare_iff i := by
    rw [isVacant_clear]
    simp [clear]

end Pool

end Uplink
