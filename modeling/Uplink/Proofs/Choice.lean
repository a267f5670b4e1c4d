/-
Which member takes a write.

A write goes to a member that is free; without one, it goes to one of those with the fewest writes
waiting among the members that are connected or about to be; without one of these it is cancelled.
In the course of a reroute the member that the write comes from is excluded.  The search for a free
member does not know of that: it takes the first one that it meets, and if that is the excluded one,
the write goes on as if none were free, even if others are.

A member that is chosen is known by its handle from then on, so all of this is said of pools in
which handles can name all slots.

* `Uplink.Pool.selectFree_eq_none_iff` — the search ends nowhere only if no member is free;
* `Uplink.Pool.lightest_le` — no load is smaller than the smallest one;
* `Uplink.Pool.Blocked` — the search for a free member ends at the excluded one;
* `Uplink.Pool.Selected`, `Uplink.Pool.selected` — **which member takes a write**;
* `Uplink.Pool.alike_isFree_placeAll` — placing writes makes nobody free, and nobody busy;
* `Uplink.Pool.target_selected` — every write that is submitted, and every write of a reroute;
* `Uplink.PoolState.free_member_missed` — **a reroute may pass over a member that is free**.
-/

import Uplink.Proofs.PoolState

set_option relaxedAutoImplicit false
set_option autoImplicit false

namespace Uplink

/-- The connection is connected or about to be. -/
def Connection.isUsable (c : Connection) : Bool := c.status.isConnected ∨ c.status = .connecting

theorem Connection.isUsable_of_isFree {c : Connection} (h : c.isFree = true) :
    c.isUsable = true := by
  simp only [isFree, decide_eq_true_eq] at h
  simp [isUsable, h.1, Status.isConnected]

namespace Pool

variable {p q : Pool} {f : Fleet} {w : PendingWrite} {excluded : Option PoolHandle}
  {h : PoolHandle} {member : Nat}

/-! ### The search for a free member -/

/-- The search goes over all slots, wherever it starts. -/
theorem mem_searchOrder {index : Nat} : index ∈ p.searchOrder ↔ index < p.slots.length := by
  rw [searchOrder, List.mem_map]
  constructor
  · rintro ⟨offset, hoffset, rfl⟩
    exact Nat.mod_lt _ (Nat.zero_lt_of_lt (List.mem_range.1 hoffset))
  · intro hindex
    have hcursor := Nat.mod_lt p.cursor (Nat.zero_lt_of_lt hindex)
    -- The slots before the start come last.
    by_cases hle : p.cursor % p.slots.length ≤ index
    · refine ⟨index - p.cursor % p.slots.length, List.mem_range.2 (by omega), ?_⟩
      rw [← Nat.mod_add_mod, Nat.add_sub_cancel' hle, Nat.mod_eq_of_lt hindex]
    · refine ⟨index + p.slots.length - p.cursor % p.slots.length, List.mem_range.2 (by omega), ?_⟩
      rw [← Nat.mod_add_mod, Nat.add_sub_cancel' (by omega), Nat.add_mod_right,
        Nat.mod_eq_of_lt hindex]

/-- The search comes to every slot. -/
theorem mem_filterMap_searchOrder {slot : Slot} {index : Nat} :
    (slot, index) ∈ p.searchOrder.filterMap p.slotAt? ↔ p.slots[index]? = some slot := by
  rw [List.mem_filterMap]
  constructor
  · rintro ⟨i, -, hplace⟩
    obtain ⟨hslot, rfl⟩ := slotAt?_eq_some_iff.1 hplace
    exact hslot
  · intro hslot
    exact ⟨index, mem_searchOrder.2 (List.getElem?_eq_some_iff.1 hslot).1,
      slotAt?_eq_some_iff.2 ⟨hslot, rfl⟩⟩

/-- The search ends nowhere only if no member is free. -/
theorem selectFree_eq_none_iff {isFree : Nat → Bool} : (p.selectFree isFree).1 = none ↔
    ∀ e ∈ p.entries, isFree e.2 = false := by
  have hfind : (p.selectFree isFree).1 = none ↔ (p.searchOrder.filterMap p.slotAt?).find?
      (fun place => place.1.member.any isFree) = none := by
    unfold selectFree
    split
    next hsome => simp [hsome]
    next hnone => simp [hnone]
  rw [hfind, List.find?_eq_none]
  constructor
  · rintro hall ⟨h, member⟩ hentry
    obtain ⟨index, slot, hslot, hmember, -⟩ := mem_entries_iff_exists.1 hentry
    simpa [hmember] using hall (slot, index) (mem_filterMap_searchOrder.2 hslot)
  · rintro hall ⟨slot, index⟩ hplace hfree
    obtain ⟨member, hmember, hfree⟩ := (Option.any_eq_true _ _).1 hfree
    have hslot := mem_filterMap_searchOrder.1 hplace
    rw [hall (slot.handle index, member)
      (mem_entries_iff_exists.2 ⟨index, slot, hslot, hmember, rfl⟩)] at hfree
    cases hfree

/-! ### The smallest load -/

theorem lightest_eq_none_iff {loads : List (PoolHandle × Nat)} :
    lightest loads = none ↔ loads = [] := by
  cases loads with
  | nil => simp [lightest]
  | cons e rest =>
      unfold lightest
      split
      · split <;> simp
      · simp

/-- No load is smaller than the smallest one. -/
theorem lightest_le {loads : List (PoolHandle × Nat)} {best : PoolHandle × Nat}
    (hbest : lightest loads = some best) : ∀ e ∈ loads, best.2 ≤ e.2 := by
  induction loads generalizing best with
  | nil => nofun
  | cons first rest ih =>
      intro e he
      unfold lightest at hbest
      split at hbest
      next other hother =>
        have hrest := ih hother
        rcases List.mem_cons.1 he with rfl | he
        · split at hbest
          · cases hbest
            omega
          · cases hbest
            exact Nat.le_refl _
        · have hle := hrest e he
          split at hbest
          · cases hbest
            exact hle
          · cases hbest
            omega
      next hnone =>
        rw [lightest_eq_none_iff] at hnone
        cases hbest
        rw [hnone, List.mem_singleton] at he
        exact Nat.le_of_eq (by rw [he])

/-! ### Which member takes a write -/

/-- The handle leads to a connection, and is not excluded. -/
def Offers (p : Pool) (f : Fleet) (excluded : Option PoolHandle) (h : PoolHandle)
    (c : Connection) : Prop :=
  some h ≠ excluded ∧ ∃ member, p.get? h = some member ∧ f[member]? = some c

/-- The search for a free member ends at the excluded one. -/
def Blocked (p : Pool) (f : Fleet) (excluded : Option PoolHandle) : Prop :=
  excluded.isSome = true ∧ (p.nextFree f).1 = excluded

instance : Decidable (p.Blocked f excluded) := inferInstanceAs (Decidable (_ ∧ _))

/-- Which member takes a write. -/
structure Selected (p : Pool) (f : Fleet) (w : PendingWrite) (excluded : Option PoolHandle)
    (result : Option PoolHandle × Pool × Fleet × List Happening) : Prop where
  /-- One that is free, unless the search for it ends at the excluded one. -/
  free : ¬p.Blocked f excluded → (∃ h c, p.Offers f excluded h c ∧ c.isFree = true) →
    ∃ h c, result.1 = some h ∧ p.Offers f excluded h c ∧ c.isFree = true
  /-- Else one with the fewest writes waiting. -/
  shortest : (p.Blocked f excluded ∨ ∀ h c, p.Offers f excluded h c → c.isFree = false) →
    (∃ h c, p.Offers f excluded h c ∧ c.isUsable = true) →
      ∃ h c, result.1 = some h ∧ p.Offers f excluded h c ∧ c.isUsable = true ∧
        ∀ k d, p.Offers f excluded k d → d.isUsable = true → c.queue.length ≤ d.queue.length
  /-- Else none. -/
  cancelled : result.1 = none ↔ ∀ h c, p.Offers f excluded h c → c.isUsable = false
  /-- The write waits there, as the last one. -/
  waits : ∀ h member c, result.1 = some h → p.get? h = some member → f[member]? = some c →
    result.2.2.1.queue member = c.queue ++ [w]
  /-- Without a member, the write is cancelled, and nothing else happens. -/
  ends : result.1 = none → result.2.2.1 = f ∧
    result.2.2.2 = [⟨none, .resolved w.ticket (w.undelivered .cancelled)⟩]

/-- The loads of the members that are not excluded. -/
def loads (p : Pool) (f : Fleet) (excluded : Option PoolHandle) : List (PoolHandle × Nat) :=
  p.entries.filterMap fun (h, member) =>
    if some h = excluded then none else (f.load? member).map fun load => (h, load)

theorem load?_eq_some_iff {load : Nat} : f.load? member = some load ↔
    ∃ c, f[member]? = some c ∧ c.isUsable = true ∧ c.queue.length = load := by
  unfold Fleet.load?
  cases hc : f[member]? with
  | none => simp
  | some c => simp [Connection.isUsable, Connection.pending]

theorem mem_loads_iff (hp : p.slots.length ≤ wordSize) {load : Nat} :
    (h, load) ∈ p.loads f excluded ↔
      ∃ c, p.Offers f excluded h c ∧ c.isUsable = true ∧ c.queue.length = load := by
  rw [loads, List.mem_filterMap]
  constructor
  · rintro ⟨⟨k, member⟩, hmem, hload⟩
    simp only at hload
    split at hload
    · cases hload
    next hne =>
      obtain ⟨load, hload, heq⟩ := Option.map_eq_some_iff.1 hload
      cases heq
      obtain ⟨c, hc, husable, hlength⟩ := load?_eq_some_iff.1 hload
      exact ⟨c, ⟨hne, member, (mem_entries_iff hp).1 hmem, hc⟩, husable, hlength⟩
  · rintro ⟨c, ⟨hne, member, hget, hc⟩, husable, hlength⟩
    refine ⟨(h, member), (mem_entries_iff hp).2 hget, ?_⟩
    simp [hne, load?_eq_some_iff.2 ⟨c, hc, husable, hlength⟩]

/-- There is no smallest load only if no member can take a write. -/
theorem lightest_loads_eq_none_iff (hp : p.slots.length ≤ wordSize) :
    lightest (p.loads f excluded) = none ↔ ∀ h c, p.Offers f excluded h c → c.isUsable = false := by
  rw [lightest_eq_none_iff]
  constructor
  · intro hnil h c hoffers
    refine Bool.eq_false_iff.2 fun husable => ?_
    have hmem := (mem_loads_iff hp).2 ⟨c, hoffers, husable, rfl⟩
    rw [hnil] at hmem
    cases hmem
  · intro hnone
    refine List.eq_nil_iff_forall_not_mem.2 fun e he => ?_
    obtain ⟨c, hoffers, husable, -⟩ := (mem_loads_iff hp).1 he
    rw [hnone e.1 c hoffers] at husable
    cases husable

/-- The smallest load is that of a member with the fewest writes waiting. -/
theorem of_lightest_loads (hp : p.slots.length ≤ wordSize) {best : PoolHandle × Nat}
    (hbest : lightest (p.loads f excluded) = some best) :
    ∃ c, p.Offers f excluded best.1 c ∧ c.isUsable = true ∧
      ∀ k d, p.Offers f excluded k d → d.isUsable = true → c.queue.length ≤ d.queue.length := by
  obtain ⟨c, hoffers, husable, hload⟩ := (mem_loads_iff hp).1 (mem_of_lightest hbest)
  refine ⟨c, hoffers, husable, fun k d hk hd => ?_⟩
  rw [hload]
  exact lightest_le hbest _ ((mem_loads_iff hp).2 ⟨d, hk, hd, rfl⟩)

/-- The choice is the first member that the search meets, unless that is the excluded one. -/
theorem choose_cases (p : Pool) (f : Fleet) (excluded : Option PoolHandle) :
    (∃ h, (p.nextFree f).1 = some h ∧ some h ≠ excluded ∧
      (p.choose f.isFree f.load? excluded).1 = some h) ∨
    ((p.nextFree f).1 = none ∨ p.Blocked f excluded) ∧
      (p.choose f.isFree f.load? excluded).1 = (lightest (p.loads f excluded)).map (·.1) := by
  have halike := p.alike_selectFree f.isFree
  unfold choose Blocked nextFree
  generalize p.selectFree f.isFree = found at halike ⊢
  obtain ⟨free, q⟩ := found
  have hloads : q.loads f excluded = p.loads f excluded := by
    rw [loads, loads, entries_congr halike.slots_eq]
  rw [← hloads]
  cases free with
  | none => exact .inr ⟨.inl rfl, rfl⟩
  | some h =>
      by_cases hne : some h = excluded
      · subst hne
        refine .inr ⟨.inr ⟨rfl, rfl⟩, ?_⟩
        simp [Option.filter, loads]
      · exact .inl ⟨h, rfl, hne, by simp [Option.filter, hne]⟩

/-- What is chosen takes the write. -/
theorem fst_place (hp : p.slots.length ≤ wordSize) (f : Fleet) (w : PendingWrite)
    (excluded : Option PoolHandle) :
    (p.place f w excluded).1 = (p.choose f.isFree f.load? excluded).1 := by
  have hchosen := p.chosen f.isFree f.load? excluded
  unfold place
  cases htarget : (p.choose f.isFree f.load? excluded).1 with
  | none => simp [htarget]
  | some h =>
      obtain ⟨member, hget, -⟩ := hchosen.usable hp h htarget
      simp [htarget, hchosen.alike.get?_eq, hget]

theorem offers_of_nextFree (hp : p.slots.length ≤ wordSize) (hfound : (p.nextFree f).1 = some h)
    (hne : some h ≠ excluded) : ∃ c, p.Offers f excluded h c ∧ c.isFree = true := by
  obtain ⟨member, hget, hfree⟩ := exists_free_of_selectFree hp hfound
  obtain ⟨c, hc, hfree⟩ := (Option.any_eq_true _ _).1 hfree
  exact ⟨c, ⟨hne, member, hget, hc⟩, hfree⟩

/-- **Which member takes a write.** -/
theorem selected (hp : p.slots.length ≤ wordSize) (f : Fleet) (w : PendingWrite)
    (excluded : Option PoolHandle) : p.Selected f w excluded (p.place f w excluded) := by
  have hplaced := p.placed f w excluded
  have htarget := fst_place hp f w excluded
  have hcases := p.choose_cases f excluded
  rw [← htarget] at hcases
  generalize p.place f w excluded = result at hplaced hcases
  constructor
  case free =>
    rintro hblocked ⟨k, d, ⟨-, member, hget, hd⟩, hfree⟩
    obtain ⟨h, hfound, hne, hresult⟩ | ⟨hnone | hblocked', -⟩ := hcases
    · obtain ⟨c, hc, hfree⟩ := offers_of_nextFree hp hfound hne
      exact ⟨h, c, hresult, hc, hfree⟩
    · have hbusy := selectFree_eq_none_iff.1 hnone (k, member) ((mem_entries_iff hp).2 hget)
      simp [Fleet.isFree, hd, hfree] at hbusy
    · exact absurd hblocked' hblocked
  case shortest =>
    rintro hnobody ⟨k, d, hk, husable⟩
    obtain ⟨h, hfound, hne, -⟩ | ⟨-, hresult⟩ := hcases
    · obtain ⟨c, hc, hfree⟩ := offers_of_nextFree hp hfound hne
      rcases hnobody with ⟨-, hblocked⟩ | hnobody
      · exact absurd (hfound.symm.trans hblocked) hne
      · rw [hnobody h c hc] at hfree
        cases hfree
    · cases hlightest : lightest (p.loads f excluded) with
      | none =>
          rw [(lightest_loads_eq_none_iff hp).1 hlightest k d hk] at husable
          cases husable
      | some best =>
          obtain ⟨c, hc, hbest⟩ := of_lightest_loads hp hlightest
          exact ⟨best.1, c, by rw [hresult, hlightest]; rfl, hc, hbest⟩
  case cancelled =>
    obtain ⟨h, hfound, hne, hresult⟩ | ⟨-, hresult⟩ := hcases
    · obtain ⟨c, hc, hfree⟩ := offers_of_nextFree hp hfound hne
      refine ⟨fun hnone => ?_, fun hnone => ?_⟩
      · rw [hresult] at hnone
        cases hnone
      · have hunusable := hnone h c hc
        rw [Connection.isUsable_of_isFree hfree] at hunusable
        cases hunusable
    · rw [hresult, Option.map_eq_none_iff, lightest_loads_eq_none_iff hp]
  case waits =>
    intro h member c hh hget hc
    cases hplaced with
    | waits k n q halike hne hget' hs =>
        cases hh
        cases hget.symm.trans hget'
        obtain ⟨d, hd, hs⟩ := hs hp
        cases hc.symm.trans hd
        simp only [Fleet.queue_step hc, if_true, Connection.write_of_ne_stopped hs,
          Connection.queue_post]
    | cancels => cases hh
  case ends =>
    intro hnone
    cases hplaced with
    | waits => cases hnone
    | cancels => exact ⟨rfl, rfl⟩

/-! ### Writes that are placed one after the other -/

theorem isFree_step_write (f : Fleet) (member n : Nat) (w : PendingWrite) :
    Fleet.isFree (f.step member (·.write w)).1 n = f.isFree n := by
  cases hc : f[member]? with
  | none => simp only [Fleet.step, hc]
  | some c =>
      have hwrite : (c.write w).next.isFree = c.isFree := by
        unfold Connection.write Connection.push? Connection.post Connection.reject
        split
        next heq =>
          split at heq
          · cases heq
          · cases heq
            split <;> rfl
        next => rfl
      obtain ⟨hlt, -⟩ := List.getElem?_eq_some_iff.1 hc
      rw [Fleet.step_eq hc]
      by_cases hn : n = member
      · subst hn
        rw [Fleet.isFree, Fleet.isFree, List.getElem?_set_self hlt, hc]
        exact hwrite
      · simp [Fleet.isFree, Ne.symm hn]

/-- Placing a write makes nobody free, and nobody busy. -/
theorem isFree_place (p : Pool) (f : Fleet) (w : PendingWrite) (excluded : Option PoolHandle)
    (n : Nat) : Fleet.isFree (p.place f w excluded).2.2.1 n = f.isFree n := by
  have hplaced := p.placed f w excluded
  generalize p.place f w excluded = result at hplaced
  cases hplaced with
  | waits h member => exact isFree_step_write f member n w
  | cancels => rfl

theorem alike_isFree_placeAll (p : Pool) (f : Fleet) (excluded : Option PoolHandle)
    (writes : List PendingWrite) : Alike p (p.placeAll f excluded writes).2.1 ∧
      ∀ n, Fleet.isFree (p.placeAll f excluded writes).2.2.1 n = f.isFree n := by
  induction writes generalizing p f with
  | nil => exact ⟨.refl p, fun _ => rfl⟩
  | cons w rest ih =>
      obtain ⟨halike, hfree⟩ := ih (p.place f w excluded).2.1 (p.place f w excluded).2.2.1
      exact ⟨(p.placed f w excluded).alike.trans halike,
        fun n => (hfree n).trans (p.isFree_place f w excluded n)⟩

theorem placeAll_append (p : Pool) (f : Fleet) (excluded : Option PoolHandle)
    (first second : List PendingWrite) : p.placeAll f excluded (first ++ second) =
      let early := p.placeAll f excluded first
      let late := early.2.1.placeAll early.2.2.1 excluded second
      (early.1 + late.1, late.2.1, late.2.2.1, early.2.2.2 ++ late.2.2.2) := by
  induction first generalizing p f with
  | nil => simp [placeAll]
  | cons w rest ih =>
      simp only [List.cons_append, placeAll, ih, List.append_assoc, Nat.add_right_comm]

/-- The search ends at the excluded member only if that is free. -/
theorem Blocked.isFree (hb : p.Blocked f (some h)) (hp : p.slots.length ≤ wordSize)
    (hget : p.get? h = some member) : f.isFree member = true := by
  obtain ⟨n, hget', hfree⟩ := exists_free_of_selectFree hp hb.2
  cases hget.symm.trans hget'
  exact hfree

/-- **Which member takes a write that is submitted, and each of the writes of a reroute**, as long
as handles can name all slots.  A write that is submitted goes to a member that is free, else to one
with the fewest writes waiting among those that are connected or about to be, and is cancelled if
there is none.  The writes that wait at a member are placed one after the other in the same way at
the others, and all of what this does is what the reroute does; only when the search for a free
member ends at the one that the writes come from does a write go to one with the fewest writes
waiting although others may be free.  It never does so if the one that the writes come from is not
free itself. -/
theorem target_selected (hp : p.slots.length ≤ wordSize) (f : Fleet) :
    (∀ w, p.Selected f w none (p.submit f w) ∧ ¬p.Blocked f none) ∧
    ∀ h member c, p.get? h = some member → f[member]? = some c →
      ∀ before w after, c.queue = before ++ w :: after →
        let early := p.placeAll (f.set member c.takePending.2) (some h) before
        let found := early.2.1.place early.2.2.1 w (some h)
        let late := found.2.1.placeAll found.2.2.1 (some h) after
        p.reroute f h = (early.1 + found.1.toList.length + late.1, late.2.1, late.2.2.1,
          early.2.2.2 ++ found.2.2.2 ++ late.2.2.2) ∧
        early.2.1.Selected early.2.2.1 w (some h) found ∧
        (c.isFree = false → ¬early.2.1.Blocked early.2.2.1 (some h)) := by
  refine ⟨fun w => ⟨selected hp f w none, by simp [Blocked]⟩, ?_⟩
  intro h member c hget hc before w after hqueue early found late
  obtain ⟨halike, hfree⟩ :=
    p.alike_isFree_placeAll (f.set member c.takePending.2) (some h) before
  have hp' : early.2.1.slots.length ≤ wordSize := by
    rw [halike.slots_eq]
    exact hp
  refine ⟨?_, selected hp' early.2.2.1 w (some h), fun hbusy hblocked => ?_⟩
  · rw [reroute_eq hget hc, hqueue, placeAll_append]
    simp only [placeAll, early, found, late, List.append_assoc, Nat.add_assoc,
      Nat.add_comm (List.length _)]
  · -- Nobody has become free.
    obtain ⟨hlt, -⟩ := List.getElem?_eq_some_iff.1 hc
    have hsource : Fleet.isFree (f.set member c.takePending.2) member = false := by
      rw [Fleet.isFree, List.getElem?_set_self hlt]
      exact hbusy
    have hstill := hblocked.isFree hp' ((congrFun halike.get?_eq h).trans hget)
    rw [hfree member, hsource] at hstill
    cases hstill

end Pool

namespace PoolState

/-! ### A member that is passed over -/

/-- Three members connect.  The second one is given a write, and its task turns to it; then the
first one is given a write, and its task does not turn to it yet. -/
def crowdedRun : List Operation :=
  let join : Operation := .add ⟨0⟩ { endpoint := ⟨"node", 9001⟩ }
  let dial (member : Nat) : List Operation :=
    [.tick, .tick, .command, .tick, .tick, .dialled ⟨member, none, []⟩, .tick].map
      (.turn member ⟨0⟩)
  [join, join, join, .connectAll] ++ dial 0 ++ dial 1 ++ dial 2 ++
    [.write ⟨1, 0⟩ { ticket := 1, payload := [65], enqueuedAt := ⟨1⟩ },
      .turn 1 ⟨1⟩ .tick, .turn 1 ⟨1⟩ .tick,
      .write ⟨0, 0⟩ { ticket := 2, payload := [66], enqueuedAt := ⟨1⟩ }]

/-- The busy member is given another write.  When it is moved, it goes to a member that is free. -/
theorem target_selected_crowdedRun :
    let w : PendingWrite := { ticket := 3, payload := [67], enqueuedAt := ⟨1⟩ }
    let s : PoolState := run {} (crowdedRun ++ [.write ⟨1, 0⟩ w])
    ∃ c, s.fleet[1]? = some c ∧ c.queue = [w] ∧ c.isFree = false ∧
      let bare := s.fleet.set 1 c.takePending.2
      let found := s.pool.place bare w (some ⟨1, 0⟩)
      (s.pool.reroute s.fleet ⟨1, 0⟩).2.2.1 = found.2.2.1 ∧
        ¬s.pool.Blocked bare (some ⟨1, 0⟩) ∧ s.pool.Selected bare w (some ⟨1, 0⟩) found := by
  intro w s
  have hget : s.pool.get? ⟨1, 0⟩ = some 1 := by decide
  have hbusy : s.fleet.isFree 1 = false := by decide
  have hqueue : s.fleet[1]?.map (·.queue) = some [w] := by decide
  obtain ⟨c, hc, hqueue⟩ := Option.map_eq_some_iff.1 hqueue
  rw [Fleet.isFree, hc] at hbusy
  obtain ⟨hmoved, hselected, hopen⟩ :=
    (Pool.target_selected (by decide) s.fleet).2 ⟨1, 0⟩ 1 c hget hc [] w [] hqueue
  refine ⟨c, hc, hqueue, hbusy, ?_, hopen hbusy, hselected⟩
  rw [hmoved]
  rfl

/-- **A reroute may pass over a member that is free.**  The search for a free member starts at the
one that the write comes from, which is still free; so the write goes to the busy one. -/
theorem free_member_missed :
    let s : PoolState := run {} crowdedRun
    let result := s.pool.reroute s.fleet ⟨0, 0⟩
    s.pool.get? ⟨2, 0⟩ = some 2 ∧ s.fleet.isFree 2 = true ∧
      s.pool.get? ⟨1, 0⟩ = some 1 ∧ s.fleet.isFree 1 = false ∧
      (s.fleet.queue 0).map (·.ticket) = [2] ∧
      (result.2.2.1.queue 1).map (·.ticket) = [2] ∧ result.2.2.1.queue 2 = [] := by
  decide

end PoolState

end Uplink
