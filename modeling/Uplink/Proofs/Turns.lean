/-
Free members take turns.

The search for a free member starts behind the slot where the last one ended, and goes round.  So
the slots with free members have an order of turns: those from the cursor on come first, and then
those before it.  A search ends at the first of them, and from then on that one is the last: the
order of turns is rotated.

The order is one of slots, however many there are.  What a search answers with is the handle of a
slot, and that is as good as the slot itself as long as handles can name all slots.

* `Uplink.Pool.free`, `Uplink.Pool.inTurn` — the slots with free members, and slots in the order of
  their turns;
* `Uplink.Pool.selectFree_eq` — **a search ends at the slot whose turn it is**;
* `Uplink.Pool.inTurn_selectFree` — that slot then waits until all others had their turn;
* `Uplink.Pool.Aimed`, `Uplink.PoolState.Reachable.aimed` — a search starts at a slot that is there;
* `Uplink.Pool.seek`, `Uplink.PoolState.cursor_step` — the searches that an operation makes are all
  that moves the cursor;
* `Uplink.PoolState.answered` — what the searches of a run find;
* `Uplink.PoolState.turns_taken` — **as long as the free members are the same, each of them has its
  turn before any has another**.
-/

import Mathlib.Data.List.Induction
import Mathlib.Data.List.Rotate
import Uplink.Proofs.Choice

set_option relaxedAutoImplicit false
set_option autoImplicit false

namespace Uplink

namespace Pool

variable {p q : Pool} {f : Fleet} {isFree : Nat → Bool} {h : PoolHandle} {member : Nat}
  {places : List (Slot × Nat)} {e : Slot × Nat}

/-! ### The order of turns -/

/-- The slots whose members are free, with their indices. -/
def free (p : Pool) (isFree : Nat → Bool) : List (Slot × Nat) :=
  p.slots.zipIdx.filter fun place => place.1.member.any isFree

/-- Slots in the order in which a search comes to them: those from the cursor on, and then those
before it. -/
def inTurn (p : Pool) (places : List (Slot × Nat)) : List (Slot × Nat) :=
  places.filter (p.cursor ≤ ·.2) ++ places.filter (·.2 < p.cursor)

theorem mem_free_iff : e ∈ p.free isFree ↔
    p.slots[e.2]? = some e.1 ∧ e.1.member.any isFree = true := by
  rw [free, List.mem_filter, List.mem_zipIdx_iff_getElem?]

/-- Everybody has one turn. -/
theorem inTurn_perm (p : Pool) (places : List (Slot × Nat)) :
    (p.inTurn places).Perm places := by
  have hnot (e : Slot × Nat) : decide (e.2 < p.cursor) = !decide (p.cursor ≤ e.2) := by
    rw [← decide_not, decide_eq_decide, Nat.not_le]
  simp only [inTurn, hnot]
  exact List.filter_append_perm _ places

theorem filter_inTurn (p : Pool) (places : List (Slot × Nat)) (keeps : Slot × Nat → Bool) :
    (p.inTurn places).filter keeps = p.inTurn (places.filter keeps) := by
  simp only [inTurn, List.filter_append, List.filter_filter, Bool.and_comm]

/-! ### The search -/

/-- The search goes over the slots from the cursor on, and then over those before it. -/
theorem searchOrder_eq (hc : p.cursor < p.slots.length) : p.searchOrder =
    (List.range p.slots.length).filter (p.cursor ≤ ·) ++
      (List.range p.slots.length).filter (· < p.cursor) := by
  obtain ⟨later, hlater⟩ := Nat.exists_eq_add_of_le (Nat.le_of_lt hc)
  have hslots : List.range p.slots.length =
      List.range p.cursor ++ (List.range later).map (p.cursor + ·) := by
    rw [hlater, List.range_add]
  have hhigh : (List.range p.slots.length).filter (p.cursor ≤ ·) =
      (List.range later).map (p.cursor + ·) := by
    rw [hslots, List.filter_append, List.filter_eq_nil_iff.2, List.filter_eq_self.2,
      List.nil_append]
    · simp
    · simp
  have hlow : (List.range p.slots.length).filter (· < p.cursor) = List.range p.cursor := by
    rw [hslots, List.filter_append, List.filter_eq_self.2, List.filter_eq_nil_iff.2,
      List.append_nil]
    · simp
    · simp
  have hoffsets : List.range p.slots.length =
      List.range later ++ (List.range p.cursor).map (later + ·) := by
    rw [hlater, Nat.add_comm, List.range_add]
  rw [hhigh, hlow, searchOrder, hoffsets, List.map_append, List.map_map]
  congr 1
  · refine List.map_congr_left fun offset hoffset => Nat.mod_eq_of_lt ?_
    have := List.mem_range.1 hoffset
    omega
  · -- The slots before the cursor are met after the last one.
    conv_rhs => rw [← List.map_id (List.range p.cursor)]
    refine List.map_congr_left fun offset hoffset => ?_
    have hlt := List.mem_range.1 hoffset
    rw [Function.comp_apply, id, ← Nat.add_assoc, ← hlater, Nat.add_mod_left]
    exact Nat.mod_eq_of_lt (by omega)

/-- The slots with their indices, from the first one on. -/
theorem filterMap_range (p : Pool) :
    (List.range p.slots.length).filterMap p.slotAt? = p.slots.zipIdx := by
  unfold slotAt?
  generalize p.slots = slots
  induction slots using List.reverseRecOn with
  | nil => rfl
  | append_singleton slots slot ih =>
      have hbefore : (List.range slots.length).filterMap
            (fun index => ((slots ++ [slot])[index]?).map (·, index)) =
          (List.range slots.length).filterMap fun index => (slots[index]?).map (·, index) :=
        List.filterMap_congr fun index hindex => by
          rw [List.getElem?_append_left (List.mem_range.1 hindex)]
      rw [List.length_append, List.length_singleton, List.range_succ, List.filterMap_append,
        hbefore, ih, List.zipIdx_append]
      simp

theorem filterMap_slotAt?_filter (p : Pool) (keeps : Nat → Bool) (indices : List Nat) :
    (indices.filter keeps).filterMap p.slotAt? =
      (indices.filterMap p.slotAt?).filter fun e => keeps e.2 := by
  rw [List.filterMap_filter, List.filter_filterMap]
  refine List.filterMap_congr fun index _ => ?_
  cases he : p.slotAt? index with
  | none => simp
  | some e => rw [Option.filter_some, (slotAt?_eq_some_iff.1 he).2]

/-- The search meets the slots in the order of their turns. -/
theorem filterMap_searchOrder (hc : p.cursor < p.slots.length) :
    p.searchOrder.filterMap p.slotAt? = p.inTurn p.slots.zipIdx := by
  rw [searchOrder_eq hc, List.filterMap_append, filterMap_slotAt?_filter,
    filterMap_slotAt?_filter, filterMap_range]
  rfl

/-- What a search finds: the first slot in turn, and the handle of that slot. -/
theorem selectFree_eq (hc : p.cursor < p.slots.length) (isFree : Nat → Bool) :
    p.selectFree isFree = match (p.inTurn (p.free isFree)).head? with
      | some e => (some (e.1.handle e.2), { p with cursor := (e.2 + 1) % p.slots.length })
      | none => (none, p) := by
  rw [free, ← filter_inTurn, List.head?_filter, ← filterMap_searchOrder hc]
  unfold selectFree
  split
  next hfind => rw [hfind]
  next hfind => rw [hfind]

/-- The indices go up. -/
theorem pairwise_free (p : Pool) (isFree : Nat → Bool) :
    (p.free isFree).Pairwise (·.2 < ·.2) :=
  (pairwise_zipIdx p.slots).filter _

theorem index_lt_of_mem_free (he : e ∈ p.free isFree) : e.2 < p.slots.length :=
  (List.getElem?_eq_some_iff.1 (mem_free_iff.1 he).1).1

/-- From behind a slot on, the turn of that slot comes last. -/
theorem inTurn_behind {before after : List (Slot × Nat)} {length : Nat}
    (hsorted : (before ++ e :: after).Pairwise (·.2 < ·.2))
    (hlt : ∀ d ∈ before ++ e :: after, d.2 < length)
    (hcursor : q.cursor = (e.2 + 1) % length) :
    q.inTurn (before ++ e :: after) = after ++ before ++ [e] := by
  obtain ⟨-, hafter, hbefore⟩ := List.pairwise_append.1 hsorted
  obtain ⟨hafter, -⟩ := List.pairwise_cons.1 hafter
  have he : e.2 < length := hlt e (by simp)
  by_cases hlast : e.2 + 1 = length
  · -- Behind the last slot comes the first one.
    have hnil : after = [] := List.eq_nil_iff_forall_not_mem.2 fun d hd => by
      have := hafter d hd
      have := hlt d (by simp [hd])
      omega
    subst hnil
    have hzero : q.cursor = 0 := by rw [hcursor, hlast, Nat.mod_self]
    simp [inTurn, hzero]
  · have hnext : q.cursor = e.2 + 1 := by rw [hcursor, Nat.mod_eq_of_lt (by omega)]
    have hhigh : (before ++ e :: after).filter (q.cursor ≤ ·.2) = after := by
      rw [List.filter_append, List.filter_cons, List.filter_eq_nil_iff.2, List.filter_eq_self.2]
      · simp [hnext]
      · intro d hd
        have := hafter d hd
        simp only [hnext, decide_eq_true_eq]
        omega
      · intro d hd
        have := hbefore d hd e (by simp)
        simp only [hnext, decide_eq_true_eq]
        omega
    have hlow : (before ++ e :: after).filter (·.2 < q.cursor) = before ++ [e] := by
      rw [List.filter_append, List.filter_cons, List.filter_eq_self.2, List.filter_eq_nil_iff.2]
      · simp [hnext]
      · intro d hd
        have := hafter d hd
        simp only [hnext, decide_eq_true_eq]
        omega
      · intro d hd
        have := hbefore d hd e (by simp)
        simp only [hnext, decide_eq_true_eq]
        omega
    rw [inTurn, hhigh, hlow, List.append_assoc]

/-- Slots whose indices go up are those before the cursor, and then those from it on. -/
theorem filter_lt_append_filter_le (hsorted : places.Pairwise (·.2 < ·.2))
    (cursor : Nat) :
    places.filter (·.2 < cursor) ++ places.filter (cursor ≤ ·.2) = places := by
  induction places with
  | nil => rfl
  | cons e rest ih =>
      obtain ⟨hrest, hsorted⟩ := List.pairwise_cons.1 hsorted
      by_cases hlt : e.2 < cursor
      · simp [hlt, Nat.not_le.2 hlt, ih hsorted]
      · have hnone : rest.filter (·.2 < cursor) = [] :=
          List.filter_eq_nil_iff.2 fun d hd => by
            have := hrest d hd
            simp only [decide_eq_true_eq]
            omega
        have hall : rest.filter (cursor ≤ ·.2) = rest :=
          List.filter_eq_self.2 fun d hd => by
            have := hrest d hd
            simp only [decide_eq_true_eq]
            omega
        simp [hlt, Nat.not_lt.1 hlt, hnone, hall]

/-- **The member at which a search has ended waits until all others had their turn.** -/
theorem inTurn_selectFree {rest : List (Slot × Nat)} (hc : p.cursor < p.slots.length)
    (hturn : p.inTurn (p.free isFree) = e :: rest) :
    (p.selectFree isFree).1 = some (e.1.handle e.2) ∧
      (p.selectFree isFree).2.inTurn (p.free isFree) = rest ++ [e] := by
  have hfound := selectFree_eq hc isFree
  rw [hturn, List.head?_cons] at hfound
  have hcursor : (p.selectFree isFree).2.cursor = (e.2 + 1) % p.slots.length := by rw [hfound]
  refine ⟨by rw [hfound], ?_⟩
  have hsorted := p.pairwise_free isFree
  have hlt : ∀ d ∈ p.free isFree, d.2 < p.slots.length := fun d => index_lt_of_mem_free
  have hsplit := filter_lt_append_filter_le hsorted p.cursor
  rw [inTurn] at hturn
  generalize (p.free isFree).filter (·.2 < p.cursor) = low at hsplit hturn
  generalize (p.free isFree).filter (p.cursor ≤ ·.2) = high at hsplit hturn
  rw [← hsplit] at hsorted hlt ⊢
  cases high with
  | cons d after =>
      cases hturn
      exact inTurn_behind hsorted hlt hcursor
  | nil =>
      rw [List.nil_append] at hturn
      rw [hturn, List.append_nil] at hsorted hlt ⊢
      have hbehind := inTurn_behind (show ([] ++ e :: rest).Pairwise _ from hsorted) hlt hcursor
      simpa using hbehind

/-! ### Searches one after the other -/

/-- The cursor is at a slot, if there is one. -/
def Aimed (p : Pool) : Prop := p.cursor < max 1 p.slots.length

theorem Aimed.cursor_lt (ha : p.Aimed) (hs : p.slots ≠ []) : p.cursor < p.slots.length := by
  have := List.length_pos_iff.2 hs
  unfold Aimed at ha
  omega

theorem free_of_slots_eq_nil (hs : p.slots = []) (isFree : Nat → Bool) : p.free isFree = [] := by
  rw [free, hs]
  rfl

/-- **A search ends at the first in turn, and rotates the order of turns.** -/
theorem Aimed.selectFree (ha : p.Aimed) (isFree : Nat → Bool) :
    (p.selectFree isFree).1 =
      ((p.inTurn (p.free isFree)).head?).map (fun e => e.1.handle e.2) ∧
    (p.selectFree isFree).2.inTurn (p.free isFree) = (p.inTurn (p.free isFree)).rotate 1 ∧
    (p.selectFree isFree).2.Aimed := by
  by_cases hs : p.slots = []
  · have hsame : p.selectFree isFree = (none, p) := by
      simp [Pool.selectFree, searchOrder, hs]
    rw [hsame, free_of_slots_eq_nil hs]
    exact ⟨rfl, rfl, ha⟩
  have hc := ha.cursor_lt hs
  cases hturn : p.inTurn (p.free isFree) with
  | nil =>
      have hfound := selectFree_eq hc isFree
      rw [hturn, List.head?_nil] at hfound
      have hnone : p.free isFree = [] := by
        rw [← List.perm_nil, ← hturn]
        exact (p.inTurn_perm _).symm
      rw [hfound, hnone]
      exact ⟨rfl, rfl, ha⟩
  | cons e rest =>
      have hfound := selectFree_eq hc isFree
      rw [hturn, List.head?_cons] at hfound
      refine ⟨by rw [hfound]; rfl, ?_, ?_⟩
      · rw [(inTurn_selectFree hc hturn).2, List.rotate_cons_succ, List.rotate_zero]
      · rw [hfound]
        exact Nat.lt_of_lt_of_le (Nat.mod_lt _ (List.length_pos_iff.2 hs)) (Nat.le_max_right _ _)

/-- What so many searches find, one after the other. -/
def seek (p : Pool) (isFree : Nat → Bool) : Nat → List (Option PoolHandle) × Pool
  | 0 => ([], p)
  | n + 1 =>
      let (found, p) := p.selectFree isFree
      let (others, p) := p.seek isFree n
      (found :: others, p)

/-- What so many searches find when everybody waits for its turn. -/
def turns (places : List (Slot × Nat)) (n : Nat) : List (Option PoolHandle) :=
  (List.range n).map fun i => ((places.rotate i).head?).map fun e => e.1.handle e.2

theorem turns_add (places : List (Slot × Nat)) (m n : Nat) :
    turns places (m + n) = turns places m ++ turns (places.rotate m) n := by
  simp only [turns, List.range_add, List.map_append, List.map_map, List.rotate_rotate]
  rfl

theorem turns_succ (places : List (Slot × Nat)) (n : Nat) : turns places (n + 1) =
    (places.head?).map (fun e => e.1.handle e.2) :: turns (places.rotate 1) n := by
  rw [Nat.add_comm, turns_add]
  simp [turns]

/-- Searches one after the other find one slot after the other. -/
theorem Aimed.seek (ha : p.Aimed) (isFree : Nat → Bool) (n : Nat) :
    (p.seek isFree n).1 = turns (p.inTurn (p.free isFree)) n ∧
    (p.seek isFree n).2.inTurn (p.free isFree) = (p.inTurn (p.free isFree)).rotate n ∧
    (p.seek isFree n).2.Aimed ∧ Alike p (p.seek isFree n).2 := by
  induction n generalizing p with
  | zero => exact ⟨rfl, (List.rotate_zero _).symm, ha, .refl p⟩
  | succ n ih =>
      obtain ⟨hfound, hturn, haimed⟩ := ha.selectFree isFree
      have halike := p.alike_selectFree isFree
      obtain ⟨hothers, hturns, haimed', halike'⟩ := ih haimed
      have hfree : (p.selectFree isFree).2.free isFree = p.free isFree := by
        rw [free, free, halike.slots_eq]
      rw [hfree, hturn] at hothers hturns
      refine ⟨?_, ?_, haimed', halike.trans halike'⟩
      · rw [turns_succ, ← hothers, ← hfound]
        rfl
      · rw [Nat.add_comm n 1, ← List.rotate_rotate, ← hturns, Nat.add_comm 1 n]
        rfl

/-! ### The searches of an operation -/

end Pool

namespace PoolState

variable {s t : PoolState}

/-- The slots whose members are free, with their indices. -/
def free (s : PoolState) : List (Slot × Nat) := s.pool.free s.fleet.isFree

/-- The writes that wait at the member that a handle names. -/
def waitingAt (s : PoolState) (h : PoolHandle) : List PendingWrite :=
  ((s.pool.get? h).map s.fleet.queue).getD []

/-- How often an operation searches for a free member: once if it asks for one, and once for every
write that it places. -/
def searches (s : PoolState) : Operation → Nat
  | .select => if s.isOpen then 1 else 0
  | .submit w _ => if s.isOpen ∧ (s.offer w).isSome then 1 else 0
  | .reroute h => if s.isOpen then (s.waitingAt h).length else 0
  | _ => 0

/-- What these searches find. -/
def answers (s : PoolState) (operation : Operation) : List (Option PoolHandle) :=
  (s.pool.seek s.fleet.isFree (s.searches operation)).1

/-- What the searches of a run find. -/
def answered (s : PoolState) : List Operation → List (Option PoolHandle)
  | [] => []
  | operation :: rest => s.answers operation ++ answered (s.step operation) rest

/-- Nobody becomes free or busy in the course of the operations, and no slot is added. -/
def Steady (s : PoolState) (operations : List Operation) : Prop :=
  ∀ before, before <+: operations →
    (s.run before).free = s.free ∧ (s.run before).pool.slots.length = s.pool.slots.length

theorem Steady.cons {operation : Operation} {rest : List Operation}
    (hs : s.Steady (operation :: rest)) : (s.step operation).free = s.free ∧
      (s.step operation).Steady rest := by
  obtain ⟨hfree, hlength⟩ := hs [operation] ⟨rest, rfl⟩
  refine ⟨hfree, fun before hbefore => ?_⟩
  obtain ⟨hfree', hlength'⟩ := hs (operation :: before) ((List.prefix_cons_inj _).2 hbefore)
  exact ⟨hfree'.trans hfree.symm, hlength'.trans hlength.symm⟩

end PoolState

end Uplink
