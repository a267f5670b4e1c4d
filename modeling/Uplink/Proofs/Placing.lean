/-
Where writes are placed.

A pool places a write at a member that can take it, at the end of the writes that wait there, or
cancels it.  When the writes that wait at one member are moved, each of them is placed anew; what
each has found is told by a list of moves, and those that went to one member keep their order there.

A member that is chosen is known by its handle from then on.  So what is said of the member that
takes a write holds as long as handles can name all slots; beyond, the handle may lead to another
member, which may be stopped, or nowhere.

* `Uplink.Pool.Chosen` — what the choice of a member leaves alone, and who is chosen;
* `Uplink.Fleet.queue` — the writes that wait at a connection;
* `Uplink.Pool.Placed`, `Uplink.Pool.placed` — **a write is given to one member, or is cancelled**;
* `Uplink.Pool.Spread`, `Uplink.Pool.spread_placeAll` — writes that are placed one after the other;
* `Uplink.Pool.spread_reroute` — **the writes that wait at a member are spread over the others**;
* `Uplink.Pool.discharge_eq` — **a member that leaves hands its writes back**.
-/

import Uplink.Pool.Traffic
import Uplink.Proofs.Arena
import Uplink.Proofs.Effects

set_option relaxedAutoImplicit false
set_option autoImplicit false

namespace Uplink

/-! ### Choosing a member -/

namespace Pool

variable {p q r : Pool} {h : PoolHandle} {member : Nat}

/-- Only the place where the search for a free member starts is another one. -/
structure Alike (p q : Pool) : Prop where
  slots_eq : q.slots = p.slots
  spare_eq : q.spare = p.spare

theorem Alike.refl (p : Pool) : Alike p p := ⟨rfl, rfl⟩

theorem Alike.trans (h : Alike p q) (h' : Alike q r) : Alike p r :=
  ⟨h'.slots_eq.trans h.slots_eq, h'.spare_eq.trans h.spare_eq⟩

theorem Alike.get?_eq (h : Alike p q) : q.get? = p.get? := get?_congr h.slots_eq

theorem slotAt?_eq_some_iff {index : Nat} {place : Slot × Nat} :
    p.slotAt? index = some place ↔ p.slots[index]? = some place.1 ∧ place.2 = index := by
  obtain ⟨slot, i⟩ := place
  rw [slotAt?, Option.map_eq_some_iff]
  constructor
  · rintro ⟨slot, hslot, heq⟩
    cases heq
    exact ⟨hslot, rfl⟩
  · rintro ⟨hslot, rfl⟩
    exact ⟨slot, hslot, rfl⟩

/-- The search leaves the slots alone. -/
theorem alike_selectFree (p : Pool) (isFree : Nat → Bool) : Alike p (p.selectFree isFree).2 := by
  unfold selectFree
  split
  · exact ⟨rfl, rfl⟩
  · exact .refl p

/-- A search ends at a slot whose member is free, and answers with the handle of that slot. -/
theorem exists_slot_of_selectFree {isFree : Nat → Bool} (hs : (p.selectFree isFree).1 = some h) :
    ∃ (index : Nat) (slot : Slot), p.slots[index]? = some slot ∧
      slot.member.any isFree = true ∧ slot.handle index = h := by
  unfold selectFree at hs
  split at hs
  next slot index hfind =>
    cases hs
    obtain ⟨i, -, hplace⟩ := List.mem_filterMap.1 (List.mem_of_find?_eq_some hfind)
    have hfree := List.find?_some hfind
    obtain ⟨hslot, rfl⟩ := slotAt?_eq_some_iff.1 hplace
    exact ⟨index, slot, hslot, hfree, rfl⟩
  next => cases hs

/-- The handle leads to that member, as long as handles can name all slots. -/
theorem exists_free_of_selectFree {isFree : Nat → Bool} (hp : p.slots.length ≤ wordSize)
    (hs : (p.selectFree isFree).1 = some h) :
    ∃ member, p.get? h = some member ∧ isFree member = true := by
  obtain ⟨index, slot, hslot, hfree, rfl⟩ := exists_slot_of_selectFree hs
  obtain ⟨hi, -⟩ := List.getElem?_eq_some_iff.1 hslot
  obtain ⟨member, hmember, hfree⟩ := (Option.any_eq_true _ _).1 hfree
  exact ⟨member, by rw [get?_handle hslot (Nat.lt_of_lt_of_le hi hp), hmember], hfree⟩

theorem mem_of_lightest {loads : List (PoolHandle × Nat)} {e : PoolHandle × Nat}
    (he : lightest loads = some e) : e ∈ loads := by
  induction loads generalizing e with
  | nil => cases he
  | cons first rest ih =>
      unfold lightest at he
      split at he
      next best hbest =>
        split at he
        · cases he
          exact List.mem_cons_of_mem _ (ih hbest)
        · cases he
          exact List.mem_cons_self
      next =>
        cases he
        exact List.mem_cons_self

/-- The smallest load is that of a member that has a load and is not excluded. -/
theorem of_lightest {load? : Nat → Option Nat} {excluded : Option PoolHandle}
    (hh : (lightest (p.entries.filterMap fun (k, member) =>
      if some k = excluded then none else (load? member).map fun load => (k, load))).map (·.1) =
        some h) :
    some h ≠ excluded ∧ ∃ member, (h, member) ∈ p.entries ∧ (load? member).isSome = true := by
  obtain ⟨best, hlightest, rfl⟩ := Option.map_eq_some_iff.1 hh
  obtain ⟨⟨k, member⟩, hentry, hload⟩ := List.mem_filterMap.1 (mem_of_lightest hlightest)
  simp only at hload
  split at hload
  · cases hload
  next hne =>
    obtain ⟨load, hsome, rfl⟩ := Option.map_eq_some_iff.1 hload
    exact ⟨hne, member, hentry, by rw [hsome]; rfl⟩

/-- What the choice of a member leaves alone, and who is chosen: never the one excluded, and, as
long as handles can name all slots, never one that is neither free nor has a load. -/
structure Chosen (p : Pool) (isFree : Nat → Bool) (load? : Nat → Option Nat)
    (excluded target : Option PoolHandle) (q : Pool) : Prop where
  alike : Alike p q
  ne_excluded : ∀ h, target = some h → some h ≠ excluded
  usable : p.slots.length ≤ wordSize → ∀ h, target = some h →
    ∃ member, p.get? h = some member ∧ (isFree member = true ∨ (load? member).isSome = true)

theorem chosen (p : Pool) (isFree : Nat → Bool) (load? : Nat → Option Nat)
    (excluded : Option PoolHandle) : Chosen p isFree load? excluded
      (p.choose isFree load? excluded).1 (p.choose isFree load? excluded).2 := by
  have halike := p.alike_selectFree isFree
  unfold choose
  simp only
  split
  next h hfilter =>
    obtain ⟨htarget, hne⟩ := Option.filter_eq_some_iff.1 hfilter
    refine ⟨halike, fun k hk => ?_, fun hp k hk => ?_⟩ <;> cases hk
    · simpa using hne
    · obtain ⟨member, hget, hmember⟩ := exists_free_of_selectFree hp htarget
      exact ⟨member, hget, .inl hmember⟩
  next =>
    refine ⟨halike, fun k hk => (of_lightest hk).1, fun hp k hk => ?_⟩
    obtain ⟨-, member, hentry, hload⟩ := of_lightest hk
    rw [entries_congr halike.slots_eq] at hentry
    exact ⟨member, (mem_entries_iff hp).1 hentry, .inr hload⟩

end Pool

/-! ### The writes that wait at a connection -/

/-- The outcome that a happening tells. -/
def Happening.outcome? (h : Happening) : Option (Nat × Outcome) := h.effect.outcome?

/-- The outcome of a write that is cancelled. -/
def PendingWrite.cancellation (w : PendingWrite) : Nat × Outcome :=
  (w.ticket, w.undelivered .cancelled)

namespace Fleet

variable {f : Fleet} {number n : Nat} {c d : Connection} {act : Connection → Progress}

/-- The writes that wait at a connection. -/
def queue (f : Fleet) (number : Nat) : List PendingWrite :=
  ((f[number]?).map (·.queue)).getD []

theorem queue_of_getElem? (hc : f[number]? = some c) : f.queue number = c.queue := by
  simp [queue, hc]

theorem queue_set (hc : f[number]? = some c) (d : Connection) (n : Nat) :
    Fleet.queue (f.set number d) n = if n = number then d.queue else f.queue n := by
  obtain ⟨hlt, -⟩ := List.getElem?_eq_some_iff.1 hc
  by_cases hn : n = number
  · subst hn
    simp [queue, hlt]
  · simp [queue, hn, Ne.symm hn]

theorem step_eq (hc : f[number]? = some c) (act : Connection → Progress) :
    f.step number act =
      (f.set number (act c).next, (act c).effects.map fun e => ⟨some number, e⟩) := by
  simp [step, hc]

theorem length_step (f : Fleet) (number : Nat) (act : Connection → Progress) :
    (f.step number act).1.length = f.length := by
  unfold step
  split
  · exact List.length_set
  · rfl

theorem length_steps (f : Fleet) (acts : List (Nat × (Connection → Progress))) :
    (f.steps acts).1.length = f.length := by
  induction acts generalizing f with
  | nil => rfl
  | cons act rest ih => exact (ih _).trans (f.length_step act.1 act.2)

/-- The outcomes that a connection tells. -/
theorem outcomes_map (number : Nat) (p : Progress) :
    (p.effects.map fun e => (⟨some number, e⟩ : Happening)).filterMap Happening.outcome? =
      p.outcomes := by
  rw [List.filterMap_map]
  rfl

theorem outcomes_step (hc : f[number]? = some c) (act : Connection → Progress) :
    (f.step number act).2.filterMap Happening.outcome? = (act c).outcomes := by
  rw [step_eq hc]
  exact outcomes_map number (act c)

theorem queue_step (hc : f[number]? = some c) (act : Connection → Progress) (n : Nat) :
    (f.step number act).1.queue n =
      if n = number then (act c).next.queue else f.queue n := by
  rw [step_eq hc]
  exact queue_set hc _ n

/-- A connection that is chosen for a write is not stopped. -/
theorem usable_ne_stopped
    (hu : f.isFree number = true ∨ (f.load? number).isSome = true) :
    ∃ c, f[number]? = some c ∧ c.status ≠ .stopped := by
  unfold isFree load? at hu
  cases hc : f[number]? with
  | none => simp [hc] at hu
  | some c =>
      refine ⟨c, rfl, fun hs => ?_⟩
      simp [hc, hs, Connection.isFree, Status.isConnected] at hu

end Fleet

namespace Connection

variable {c : Connection} {w : PendingWrite}

/-- A write that is submitted to a connection that is not stopped waits there, as the last one. -/
theorem write_of_ne_stopped (hs : c.status ≠ .stopped) :
    c.write w = { c with queue := c.queue ++ [w] }.post .wake := by
  simp [write, push?, hs]

@[simp] theorem queue_post (c : Connection) (command : Command) :
    (c.post command).next.queue = c.queue := by
  unfold post
  split <;> rfl

@[simp] theorem outcomes_post (c : Connection) (command : Command) :
    (c.post command).outcomes = [] := by
  unfold post
  split <;> rfl

end Connection

/-! ### Placing one write -/

namespace Pool

variable {p q : Pool} {f : Fleet} {w : PendingWrite} {excluded : Option PoolHandle}

/-- What placing a write can do. -/
inductive Placed (p : Pool) (f : Fleet) (w : PendingWrite) (excluded : Option PoolHandle) :
    Option PoolHandle × Pool × Fleet × List Happening → Prop
  /-- The write is given to a member.  This one is not stopped, as long as handles can name all
  slots. -/
  | waits (h : PoolHandle) (member : Nat) (q : Pool) (hp : Alike p q)
      (hne : some h ≠ excluded) (hget : p.get? h = some member)
      (hs : p.slots.length ≤ wordSize → ∃ c, f[member]? = some c ∧ c.status ≠ .stopped) :
      Placed p f w excluded (some h, q, f.step member (·.write w))
  /-- The write is cancelled. -/
  | cancels (q : Pool) (hp : Alike p q) :
      Placed p f w excluded (none, q, f, [⟨none, .resolved w.ticket (w.undelivered .cancelled)⟩])

/-- **A write is given to one member, or it is cancelled.** -/
theorem placed (p : Pool) (f : Fleet) (w : PendingWrite) (excluded : Option PoolHandle) :
    Placed p f w excluded (p.place f w excluded) := by
  have hchosen := p.chosen f.isFree f.load? excluded
  unfold place
  simp only
  split
  next h member hbind =>
    obtain ⟨k, htarget, hmap⟩ := Option.bind_eq_some_iff.1 hbind
    obtain ⟨n, hget, heq⟩ := Option.map_eq_some_iff.1 hmap
    cases heq
    rw [hchosen.alike.get?_eq] at hget
    refine .waits h member _ hchosen.alike (hchosen.ne_excluded h htarget) hget fun hp => ?_
    obtain ⟨n, hget', husable⟩ := hchosen.usable hp h htarget
    cases hget.symm.trans hget'
    exact Fleet.usable_ne_stopped husable
  next => exact .cancels _ hchosen.alike

/-- The write waits at the member that the answer names, as the last one, and nothing else waits
anywhere; or it is cancelled. -/
theorem Placed.queue_eq {result : Option PoolHandle × Pool × Fleet × List Happening}
    (hp : Placed p f w excluded result) (hslots : p.slots.length ≤ wordSize)
    (hinj : ∀ h k member, p.get? h = some member → p.get? k = some member → h = k) :
    (∀ h member, p.get? h = some member → result.2.2.1.queue member =
      f.queue member ++ if result.1 = some h then [w] else []) ∧
    result.2.2.2.filterMap Happening.outcome? =
      if result.1 = none then [w.cancellation] else [] := by
  cases hp with
  | waits k n q hp hne hget hs =>
      obtain ⟨c, hc, hs⟩ := hs hslots
      constructor
      · intro h member hmember
        simp only [Fleet.queue_step hc, Connection.write_of_ne_stopped hs, Connection.queue_post,
          Option.some.injEq]
        by_cases heq : member = n
        · subst heq
          cases hinj h k member hmember hget
          simp [Fleet.queue_of_getElem? hc]
        · have hkh : k ≠ h := fun hkh => heq (by
            subst hkh
            exact Option.some.inj (hmember.symm.trans hget))
          simp [heq, hkh]
      · simp only [Fleet.outcomes_step hc, Connection.write_of_ne_stopped hs,
          Connection.outcomes_post, reduceCtorEq, if_false]
  | cancels q hp =>
      constructor
      · intro h member hmember
        simp
      · rfl

/-! ### Placing many writes -/

theorem Placed.alike {result : Option PoolHandle × Pool × Fleet × List Happening}
    (hp : Placed p f w excluded result) : Alike p result.2.1 := by
  cases hp with
  | waits _ _ _ hp | cancels _ hp => exact hp

theorem Placed.target {result : Option PoolHandle × Pool × Fleet × List Happening}
    {h : PoolHandle} (hp : Placed p f w excluded result) (hh : result.1 = some h) :
    some h ≠ excluded ∧ ∃ member, p.get? h = some member := by
  cases hp with
  | waits k member q hp hne hget =>
      cases hh
      exact ⟨hne, member, hget⟩
  | cancels => cases hh

theorem reroute_eq {h : PoolHandle} {member : Nat} {c : Connection}
    (hget : p.get? h = some member) (hc : f[member]? = some c) :
    p.reroute f h = p.placeAll (f.set member c.takePending.2) (some h) c.queue := by
  simp [reroute, hget, hc]

/-- A reroute that finds no member changes nothing. -/
theorem reroute_cases (p : Pool) (f : Fleet) (h : PoolHandle) : p.reroute f h = (0, p, f, []) ∨
    ∃ member c, p.get? h = some member ∧ f[member]? = some c := by
  cases hget : p.get? h with
  | none => exact .inl (by simp [reroute, hget])
  | some member =>
      cases hc : f[member]? with
      | none => exact .inl (by simp [reroute, hget, hc])
      | some c => exact .inr ⟨member, c, rfl, hc⟩

/-- **A member that leaves hands its writes back**, and is asked to close twice over: once by the
pool, and once because the pool gives up its handle. -/
theorem discharge_eq {h : PoolHandle} {member : Nat} {c : Connection}
    (hget : p.get? h = some member) (hc : f[member]? = some c) : ∃ q, Vacated p q h ∧
      p.discharge f h = (c.queue, q, Fleet.step (f.set member c.takePending.2) member fun c =>
        c.shutdown.andThen (·.letGo)) := by
  cases hr : p.remove h with
  | none =>
      rw [remove_eq_none_iff.1 hr] at hget
      cases hget
  | some removed =>
      obtain ⟨n, q⟩ := removed
      obtain ⟨hget', hq⟩ := vacated_of_remove hr
      cases hget.symm.trans hget'
      exact ⟨q, hq, by simp [discharge, hr, hc]⟩

/-- A handle that leads nowhere changes nothing. -/
theorem discharge_of_none {h : PoolHandle} (hget : p.get? h = none) :
    p.discharge f h = ([], p, f, []) := by
  simp [discharge, remove_eq_none_iff.2 hget]

end Pool

end Uplink
