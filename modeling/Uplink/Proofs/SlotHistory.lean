/-
How long a handle leads to a member.

A pool has a history: members joined it under handles, and left it alone or all at once.  A slot
counts those who left it, and every handle holds the count that its slot had when the member joined;
so a handle that was given up is behind the count of its slot for ever, as long as the count does
not wrap around.

* `Uplink.Turnover` — a member joins, or members leave;
* `Uplink.Turnover.arrivals`, `Uplink.Turnover.departed` — who joined, and the handles given up;
* `Uplink.Pool.Alters` — what an operation does to a pool and adds to its history;
* `Uplink.Pool.Chronicle` — **what the history tells about the pool**;
* `Uplink.Pool.Chronicle.alters` — every operation keeps it;
* `Uplink.Pool.Chronicle.get?_eq` — **a handle leads to its member until the member leaves.**
-/

import Uplink.Proofs.Arena

set_option relaxedAutoImplicit false
set_option autoImplicit false

namespace Uplink

/-! ### Histories -/

/-- Members join a pool, and leave it. -/
inductive Turnover
  /-- A member joins under a handle. -/
  | joined (handle : PoolHandle) (member : Nat)
  /-- A member leaves. -/
  | left (handle : PoolHandle)
  /-- All members leave, those with these handles. -/
  | closed (handles : List PoolHandle)
deriving DecidableEq, Repr

namespace Turnover

/-- The member that joins, with its handle. -/
def arrival? : Turnover → Option (PoolHandle × Nat)
  | joined handle member => some (handle, member)
  | left _ | closed _ => none

/-- The handles whose members leave. -/
def leaving : Turnover → List PoolHandle
  | joined _ _ => []
  | left handle => [handle]
  | closed handles => handles

/-- Who has joined, in order. -/
def arrivals (history : List Turnover) : List (PoolHandle × Nat) := history.filterMap arrival?

/-- The handles whose members have left. -/
def departed (history : List Turnover) : List PoolHandle := history.flatMap leaving

/-- How often a slot has lost its member. -/
def departures (history : List Turnover) (index : Nat) : Nat :=
  ((departed history).map (·.index)).count index

@[simp] theorem arrivals_append (history events : List Turnover) :
    arrivals (history ++ events) = arrivals history ++ arrivals events := List.filterMap_append

@[simp] theorem departed_append (history events : List Turnover) :
    departed (history ++ events) = departed history ++ departed events := List.flatMap_append

@[simp] theorem departures_append (history events : List Turnover) (index : Nat) :
    departures (history ++ events) index = departures history index + departures events index := by
  simp [departures]

end Turnover

namespace Pool

open Turnover

variable {p q : Pool} {h : PoolHandle} {history events : List Turnover} {count member index : Nat}

/-! ### What operations do -/

/-- What an operation does to a pool and adds to its history, when `count` members have been made
before and `next` afterwards. -/
inductive Alters (p : Pool) (count : Nat) (q : Pool) (next : Nat) : List Turnover → Prop
  /-- No slot changes. -/
  | stays (hs : q.slots = p.slots) (hspare : q.spare = p.spare) (hn : count ≤ next) :
      Alters p count q next []
  /-- A new member joins. -/
  | joins (index generation : Nat) (hq : Taken p q index generation count) (hn : count < next) :
      Alters p count q next [.joined ⟨index, generation⟩ count]
  /-- A new member joins a pool that is full, and nobody learns its handle. -/
  | overflows (index generation : Nat) (hfull : wordSize ≤ index)
      (hq : Taken p q index generation count) (hn : count < next) : Alters p count q next []
  /-- A member leaves. -/
  | leaves (h : PoolHandle) (member : Nat) (hget : p.get? h = some member)
      (hq : Vacated p q h) (hn : count ≤ next) : Alters p count q next [.left h]
  /-- All members leave. -/
  | closes (hq : q = p.clear) (hn : count ≤ next) :
      Alters p count q next [.closed (p.entries.map (·.1))]

section

variable {next : Nat} (ha : Alters p count q next events)

include ha

/-- Slots are never given up. -/
theorem Alters.length_le : p.slots.length ≤ q.slots.length := by
  cases ha with
  | stays hs => exact Nat.le_of_eq (congrArg List.length hs.symm)
  | joins _ _ hq | overflows _ _ _ hq => exact hq.length_le
  | leaves _ _ _ hq => exact Nat.le_of_eq hq.length_eq.symm
  | closes hq => simp [hq, clear]

theorem Alters.tidy (ht : p.Tidy) : q.Tidy := by
  cases ha with
  | stays hs hspare => exact ht.congr hs hspare
  | joins index generation hq | overflows index generation hfull hq => exact hq.tidy ht
  | leaves h member hget hq => exact hq.tidy ht hget
  | closes hq => exact hq ▸ p.tidy_clear

theorem Alters.le : count ≤ next := by
  cases ha with
  | stays _ _ hn | leaves _ _ _ _ hn | closes _ hn => exact hn
  | joins _ _ _ hn | overflows _ _ _ _ hn => exact Nat.le_of_lt hn

/-- A member that is found was found before under the same handle, or it is the new one. -/
theorem Alters.get?_cases (hget : q.get? h = some member) :
    p.get? h = some member ∨ member = count ∧ count < next ∧
      ∀ k, q.get? k = some count → p.get? k = some count ∨ k = h := by
  cases ha with
  | stays hs => exact .inl (get?_congr hs ▸ hget)
  | joins index generation hq hn | overflows index generation hfull hq hn =>
      rcases hq.get?_iff.1 hget with ⟨rfl, rfl⟩ | hget
      · refine .inr ⟨rfl, hn, fun k hk => ?_⟩
        rcases hq.get?_iff.1 hk with ⟨rfl, -⟩ | hk
        · exact .inr rfl
        · exact .inl hk
      · exact .inl hget
  | leaves h member hmember hq => exact .inl (hq.get?_iff.1 hget).2
  | closes hq =>
      rw [hq, get?_clear] at hget
      cases hget

end

/-- The members of a pool have been made, and no two handles lead to one. -/
structure Manned (p : Pool) (count : Nat) : Prop where
  tidy : p.Tidy
  member_lt : ∀ h member, p.get? h = some member → member < count
  handle_eq : ∀ h k member, p.get? h = some member → p.get? k = some member → h = k

theorem manned_empty : Manned {} 0 := ⟨tidy_empty, by simp [get?], by simp [get?]⟩

/-- Every operation keeps this. -/
theorem Manned.alters {next : Nat} (hm : Manned p count) (ha : Alters p count q next events) :
    Manned q next := by
  refine ⟨ha.tidy hm.tidy, fun h member hget => ?_, fun h k member hget hget' => ?_⟩
  · rcases ha.get?_cases hget with hold | ⟨rfl, hn, -⟩
    · exact Nat.lt_of_lt_of_le (hm.member_lt h member hold) ha.le
    · exact hn
  · -- The new member has a number that no other has.
    rcases ha.get?_cases hget with hold | ⟨rfl, -, honly⟩
    · rcases ha.get?_cases hget' with hold' | ⟨rfl, -, -⟩
      · exact hm.handle_eq h k member hold hold'
      · exact absurd (hm.member_lt h member hold) (Nat.lt_irrefl _)
    · rcases honly k hget' with hold' | rfl
      · exact absurd (hm.member_lt k member hold') (Nat.lt_irrefl _)
      · rfl

/-! ### What the history tells -/

/-- What the history tells about the pool, when `count` members have been made. -/
structure Chronicle (p : Pool) (history : List Turnover) (count : Nat) : Prop where
  /-- The spare slots are those without a member. -/
  tidy : p.Tidy
  /-- A slot counts those who left it. -/
  generation_eq : ∀ index slot, p.slots[index]? = some slot →
    slot.generation = departures history index
  /-- Nobody leaves a slot that is not there. -/
  departures_eq_zero : ∀ index, p.slots.length ≤ index → departures history index = 0
  /-- A handle that was given up is behind the count of its slot. -/
  generation_lt : ∀ h ∈ departed history, h.generation < departures history h.index
  /-- One that was not leads to its member. -/
  get?_of_arrival : ∀ e ∈ arrivals history, e.1 ∉ departed history → p.get? e.1 = some e.2
  /-- Every member has joined. -/
  arrived : ∀ h member, p.get? h = some member → (h, member) ∈ arrivals history
  /-- No handle is given out twice. -/
  handles_nodup : ((arrivals history).map (·.1)).Nodup
  /-- No member joins twice. -/
  members_nodup : ((arrivals history).map (·.2)).Nodup
  /-- Only members that were made join. -/
  member_lt : ∀ e ∈ arrivals history, e.2 < count

theorem chronicle_empty : Chronicle {} [] 0 where
  tidy := tidy_empty
  generation_eq := nofun
  departures_eq_zero _ _ := rfl
  generation_lt := nofun
  get?_of_arrival := nofun
  arrived h member hget := by
    simp [get?] at hget
  handles_nodup := List.nodup_nil
  members_nodup := List.nodup_nil
  member_lt := nofun

/-- A handle that was given up leads nowhere. -/
theorem Chronicle.get?_eq_none (hc : Chronicle p history count) (hh : h ∈ departed history) :
    p.get? h = none := by
  rw [Option.eq_none_iff_forall_ne_some]
  intro member hget
  have hgeneration := hc.generation_eq _ _ (get?_eq_some_iff.1 hget)
  have hlt := hc.generation_lt h hh
  simp only at hgeneration
  omega

/-- **A handle leads to its member until the member leaves**, and nowhere from then on. -/
theorem Chronicle.get?_eq (hc : Chronicle p history count) {e : PoolHandle × Nat}
    (he : e ∈ arrivals history) :
    p.get? e.1 = if e.1 ∈ departed history then none else some e.2 := by
  split
  next hh => exact hc.get?_eq_none hh
  next hh => exact hc.get?_of_arrival e he hh

/-- The members are those that have joined and not left. -/
theorem Chronicle.mem_entries (hc : Chronicle p history count) (hp : p.slots.length ≤ wordSize)
    {e : PoolHandle × Nat} :
    e ∈ p.entries ↔ e ∈ arrivals history ∧ e.1 ∉ departed history := by
  obtain ⟨h, member⟩ := e
  rw [mem_entries_iff hp]
  constructor
  · intro hget
    refine ⟨hc.arrived h member hget, fun hh => ?_⟩
    rw [hc.get?_eq_none hh] at hget
    cases hget
  · rintro ⟨he, hh⟩
    exact hc.get?_of_arrival _ he hh

/-- The members are as many as have joined and not left. -/
theorem Chronicle.entries_perm (hc : Chronicle p history count) (hp : p.slots.length ≤ wordSize) :
    p.entries.Perm ((arrivals history).filter (·.1 ∉ departed history)) := by
  refine (List.perm_ext_iff_of_nodup ?_ ?_).2 fun e => ?_
  · exact (nodup_entries hp).of_map
  · exact hc.handles_nodup.of_map.filter _
  · rw [hc.mem_entries hp]
    simp

/-! ### Every operation keeps it -/

theorem Chronicle.stays (hc : Chronicle p history count) (hs : q.slots = p.slots)
    (hspare : q.spare = p.spare) : Chronicle q history count :=
  { hc with
    tidy := hc.tidy.congr hs hspare
    generation_eq := hs ▸ hc.generation_eq
    departures_eq_zero := hs ▸ hc.departures_eq_zero
    get?_of_arrival := get?_congr hs ▸ hc.get?_of_arrival
    arrived := get?_congr hs ▸ hc.arrived }

/-- A member comes into a slot whose handle nobody has. -/
theorem Chronicle.joins {generation : Nat} (hc : Chronicle p history count)
    (hq : Taken p q index generation count) :
    Chronicle q (history ++ [.joined ⟨index, generation⟩ count]) (count + 1) := by
  have hgeneration : generation = departures history index := by
    rcases hq.free with ⟨hslot, -⟩ | ⟨rfl, rfl, -⟩
    · exact hc.generation_eq _ _ hslot
    · exact (hc.departures_eq_zero _ (Nat.le_refl _)).symm
  have hfresh : (⟨index, generation⟩ : PoolHandle) ∉ (arrivals history).map (·.1) := fun hmem => by
    obtain ⟨e, he, heq⟩ := List.mem_map.1 hmem
    have hnone : p.get? e.1 = none := hq.get?_eq_none (by rw [heq])
    have hlt := hc.generation_lt e.1 (Decidable.byContradiction fun hh => by
      rw [hc.get?_of_arrival e he hh] at hnone
      cases hnone)
    rw [heq] at hlt
    simp only at hlt
    omega
  have hfresh' : count ∉ (arrivals history).map (·.2) := fun hmem => by
    obtain ⟨e, he, heq⟩ := List.mem_map.1 hmem
    have := hc.member_lt e he
    omega
  have hdepartures (i : Nat) :
      departures (history ++ [.joined ⟨index, generation⟩ count]) i = departures history i := by
    simp [departures, departed, leaving]
  have hdeparted :
      departed (history ++ [.joined ⟨index, generation⟩ count]) = departed history := by
    simp [departed, leaving]
  have harrivals : arrivals (history ++ [.joined ⟨index, generation⟩ count]) =
      arrivals history ++ [(⟨index, generation⟩, count)] := arrivals_append _ _
  constructor
  case tidy => exact hq.tidy hc.tidy
  case generation_eq =>
    intro i slot hslot
    rw [hdepartures]
    by_cases hi : i = index
    · rw [hi, hq.here] at hslot
      cases hslot
      rw [hi]
      exact hgeneration
    · rw [hq.elsewhere i hi] at hslot
      exact hc.generation_eq i slot hslot
  case departures_eq_zero =>
    intro i hi
    rw [hdepartures]
    exact hc.departures_eq_zero i (Nat.le_trans hq.length_le hi)
  case generation_lt =>
    intro h hh
    rw [hdepartures]
    exact hc.generation_lt h (hdeparted ▸ hh)
  case get?_of_arrival =>
    intro e he hh
    rw [harrivals, List.mem_append, List.mem_singleton] at he
    rw [hdeparted] at hh
    rw [hq.get?_iff]
    rcases he with he | rfl
    · exact .inr (hc.get?_of_arrival e he hh)
    · exact .inl ⟨rfl, rfl⟩
  case arrived =>
    intro h member hget
    rw [harrivals, List.mem_append, List.mem_singleton]
    rcases hq.get?_iff.1 hget with ⟨rfl, rfl⟩ | hget
    · exact .inr rfl
    · exact .inl (hc.arrived h member hget)
  case handles_nodup =>
    rw [harrivals, List.map_append]
    exact List.nodup_append_comm.1 (List.nodup_cons.2 ⟨hfresh, hc.handles_nodup⟩)
  case members_nodup =>
    rw [harrivals, List.map_append]
    exact List.nodup_append_comm.1 (List.nodup_cons.2 ⟨hfresh', hc.members_nodup⟩)
  case member_lt =>
    intro e he
    rw [harrivals, List.mem_append, List.mem_singleton] at he
    rcases he with he | rfl
    · exact Nat.lt_succ_of_lt (hc.member_lt e he)
    · exact Nat.lt_succ_self _

/-- Members leave.  The count of each slot goes on by one if its member is among them. -/
theorem Chronicle.departs (hc : Chronicle p history count) {event : Turnover}
    (harrival : event.arrival? = none) (ht : q.Tidy)
    (hgeneration : ∀ i slot, q.slots[i]? = some slot →
      slot.generation = departures (history ++ [event]) i)
    (hlength : q.slots.length = p.slots.length)
    (hleaving : ∀ h ∈ event.leaving, ∃ member, p.get? h = some member)
    (hget : ∀ h member, q.get? h = some member ↔ h ∉ event.leaving ∧ p.get? h = some member) :
    Chronicle q (history ++ [event]) count := by
  have harrivals : arrivals (history ++ [event]) = arrivals history := by
    simp [arrivals, harrival]
  have hdeparted : departed (history ++ [event]) = departed history ++ event.leaving := by
    simp [departed]
  have hgrows (i : Nat) : departures history i ≤ departures (history ++ [event]) i := by simp
  constructor
  case tidy => exact ht
  case generation_eq => exact hgeneration
  case departures_eq_zero =>
    intro i hi
    have hzero := hc.departures_eq_zero i (hlength ▸ hi)
    rw [departures_append, hzero, Nat.zero_add, departures, List.count_eq_zero]
    intro hmem
    simp only [departed, List.flatMap_cons, List.flatMap_nil, List.append_nil,
      List.mem_map] at hmem
    obtain ⟨h, hh, rfl⟩ := hmem
    obtain ⟨member, hmember⟩ := hleaving h hh
    have := (List.getElem?_eq_some_iff.1 (get?_eq_some_iff.1 hmember)).1
    omega
  case generation_lt =>
    intro h hh
    rw [hdeparted, List.mem_append] at hh
    rcases hh with hh | hh
    · exact Nat.lt_of_lt_of_le (hc.generation_lt h hh) (hgrows _)
    · obtain ⟨member, hmember⟩ := hleaving h hh
      have heq := hc.generation_eq _ _ (get?_eq_some_iff.1 hmember)
      have hpos : 0 < departures [event] h.index := by
        rw [departures, List.count_pos_iff]
        exact List.mem_map_of_mem (by simpa [departed] using hh)
      rw [departures_append]
      simp only at heq
      omega
  case get?_of_arrival =>
    intro e he hh
    rw [harrivals] at he
    rw [hdeparted, List.mem_append, not_or] at hh
    exact (hget _ _).2 ⟨hh.2, hc.get?_of_arrival e he hh.1⟩
  case arrived =>
    intro h member hmember
    rw [harrivals]
    exact hc.arrived h member ((hget _ _).1 hmember).2
  case handles_nodup =>
    rw [harrivals]
    exact hc.handles_nodup
  case members_nodup =>
    rw [harrivals]
    exact hc.members_nodup
  case member_lt =>
    rw [harrivals]
    exact hc.member_lt

theorem Chronicle.leaves (hc : Chronicle p history count) (hget : p.get? h = some member)
    (ht : q.Tidy) (hq : Vacated p q h)
    (hbound : departures (history ++ [.left h]) h.index < wordSize) :
    Chronicle q (history ++ [.left h]) count := by
  have hslot := get?_eq_some_iff.1 hget
  have hdepartures (i : Nat) : departures [.left h] i = if h.index = i then 1 else 0 := by
    simp [departures, departed, leaving, List.count_singleton]
  refine hc.departs rfl ht (fun i slot hi => ?_) hq.length_eq
    (fun k hk => ⟨member, by rw [List.mem_singleton.1 hk, hget]⟩) fun k n => ?_
  · rw [departures_append, hdepartures]
    by_cases heq : h.index = i
    · subst heq
      rw [hq.here] at hi
      cases hi
      have hgeneration := hc.generation_eq _ _ hslot
      rw [departures_append, hdepartures, if_pos rfl] at hbound
      simp only at hgeneration
      simp only [if_true, nextGeneration, hgeneration]
      exact Nat.mod_eq_of_lt hbound
    · rw [hq.elsewhere i (Ne.symm heq)] at hi
      rw [if_neg heq, Nat.add_zero]
      exact hc.generation_eq i slot hi
  · rw [hq.get?_iff, leaving, List.mem_singleton]
    refine and_congr_left fun hk => not_congr ⟨fun hi => ?_, fun heq => heq ▸ rfl⟩
    -- Two handles that lead to members of one slot are the same.
    have hk := get?_eq_some_iff.1 hk
    rw [hi, hslot] at hk
    obtain ⟨index, generation⟩ := k
    cases hi
    cases hk
    rfl

theorem Chronicle.closes (hc : Chronicle p history count) (hp : p.slots.length ≤ wordSize)
    (hbound : ∀ i, departures (history ++ [.closed (p.entries.map (·.1))]) i < wordSize) :
    Chronicle p.clear (history ++ [.closed (p.entries.map (·.1))]) count := by
  have hdepartures (i : Nat) : departures [.closed (p.entries.map (·.1))] i =
      if i ∈ p.entries.map (·.1.index) then 1 else 0 := by
    have hmap : (departed [.closed (p.entries.map (·.1))]).map (·.index) =
        p.entries.map (·.1.index) := by simp [departed, leaving]
    rw [departures, hmap]
    split
    next hi => exact List.count_eq_one_of_mem (nodup_entries hp) hi
    next hi => exact List.count_eq_zero.2 hi
  refine hc.departs rfl p.tidy_clear (fun i slot hi => ?_) (by simp [clear])
    (fun h hh => ?_) fun h n => ?_
  · rw [getElem?_clear] at hi
    obtain ⟨⟨generation, occupant⟩, hslot, rfl⟩ := Option.map_eq_some_iff.1 hi
    have hgeneration := hc.generation_eq i _ hslot
    have hoccupied : i ∈ p.entries.map (·.1.index) ↔ occupant.isSome = true := by
      constructor
      · intro hmem
        obtain ⟨⟨h, n⟩, hentry, rfl⟩ := List.mem_map.1 hmem
        rw [get?_eq_some_iff.1 ((mem_entries_iff hp).1 hentry)] at hslot
        cases hslot
        rfl
      · intro hsome
        obtain ⟨n, rfl⟩ := Option.isSome_iff_exists.1 hsome
        exact List.mem_map.2 ⟨(⟨i, generation⟩, n),
          (mem_entries_iff hp).2 (get?_eq_some_iff.2 hslot), rfl⟩
    have hlt := hbound i
    rw [departures_append, hdepartures] at hlt ⊢
    simp only [hoccupied, ← hgeneration] at hlt ⊢
    split
    next hsome =>
      rw [if_pos hsome] at hlt
      exact Nat.mod_eq_of_lt hlt
    next => rfl
  · obtain ⟨e, he, rfl⟩ := List.mem_map.1 hh
    exact ⟨e.2, (mem_entries_iff hp).1 he⟩
  · rw [get?_clear, leaving]
    simp only [reduceCtorEq, false_iff, not_and]
    exact fun hh hget => hh (List.mem_map.2 ⟨(h, n), (mem_entries_iff hp).2 hget, rfl⟩)

/-- **Every operation keeps what the history tells**, as long as slots and departures can be
counted. -/
theorem Chronicle.alters {next : Nat} (hc : Chronicle p history count)
    (ha : Alters p count q next events) (hslots : q.slots.length < wordSize)
    (hbound : ∀ i, departures (history ++ events) i < wordSize) :
    Chronicle q (history ++ events) next := by
  have hp : p.slots.length ≤ wordSize := Nat.le_of_lt (Nat.lt_of_le_of_lt ha.length_le hslots)
  have hgrows {n : Nat} {history : List Turnover} (hc : Chronicle q history n)
      (hle : n ≤ next) : Chronicle q history next :=
    { hc with member_lt := fun e he => Nat.lt_of_lt_of_le (hc.member_lt e he) hle }
  cases ha with
  | stays hs hspare hn =>
      rw [List.append_nil]
      exact hgrows (hc.stays hs hspare) hn
  | joins index generation hq hn => exact hgrows (hc.joins hq) hn
  | overflows index generation hfull hq =>
      have := (List.getElem?_eq_some_iff.1 hq.here).1
      omega
  | leaves h member hget hq hn =>
      exact hgrows (hc.leaves hget (hq.tidy hc.tidy hget) hq (hbound _)) hn
  | closes hq hn =>
      cases hq
      exact hgrows (hc.closes hp hbound) hn

end Pool

end Uplink
