/-
Setting the options of a socket.

A configuration asks for some of the options, each with a value.  They are attempted one by one in a
fixed order, whichever of them the system refuses, with one exception: a timing of the keep-alive is
attempted only after the timings before it were taken.  What is reported is the first refusal.

* `Uplink.SocketOptions.value?` — the value that is asked for an option;
* `Uplink.SocketOptions.wanted` — everything that is asked for, in order;
* `Uplink.SocketOptions.flatten_groups` — the groups hold what is asked for;
* `Uplink.SocketOptions.applyGroup_fst`, `Uplink.SocketOptions.applyGroup_snd` — what is attempted
  of a group, and what is reported of it;
* `Uplink.SocketOptions.options_attempted` — **what is attempted of a configuration, and what is
  reported**;
* `Uplink.SocketOptions.timings_given_up` — so that not everything is attempted.
-/

import Mathlib.Algebra.Group.Nat.Defs
import Uplink.SocketOptions

set_option relaxedAutoImplicit false
set_option autoImplicit false

namespace Uplink

/-- The options that have to be taken before an option is attempted.  Only the timings of the
keep-alive wait for others, each of them for the ones before it. -/
def OptionName.waitsFor : OptionName → List OptionName
  | .keepInterval => [.keepIdle]
  | .keepCount => [.keepIdle, .keepInterval]
  | _ => []

namespace SocketOptions

variable {o : SocketOptions} {refusal : OptionName → Option OsError} {before : List OptionName}
  {group : List OptionSetting} {s : OptionSetting}

/-! ### What is asked for -/

/-- The value that is asked for an option.  A size or a count is cut to the largest signed number of
32 bits; so is a time, in whole seconds and not below one. -/
def value? (o : SocketOptions) : OptionName → Option Nat
  | .noDelay => some (if o.noDelay then 1 else 0)
  | .sendBuffer => o.sendBuffer.map fun size => min size (2 ^ 31 - 1)
  | .receiveBuffer => o.receiveBuffer.map fun size => min size (2 ^ 31 - 1)
  | .keepAlive => o.keepAlive.map fun _ => 1
  | .keepIdle => o.keepAlive.map fun k => min (max (k.time.ns / 10 ^ 9) 1) (2 ^ 31 - 1)
  | .keepInterval => o.keepAlive.map fun k => min (max (k.interval.ns / 10 ^ 9) 1) (2 ^ 31 - 1)
  | .keepCount => o.keepAlive.map fun k => min k.retries (2 ^ 31 - 1)

/-- Everything that is asked for: each option once, with its value, in the order of all options. -/
def wanted (o : SocketOptions) : List OptionSetting :=
  OptionName.all.filterMap fun name => (o.value? name).map fun value => ⟨name, value⟩

theorem mem_wanted_iff : s ∈ o.wanted ↔ o.value? s.name = some s.value := by
  have hall : s.name ∈ OptionName.all := by cases s.name <;> decide
  rw [wanted, List.mem_filterMap]
  constructor
  · rintro ⟨name, -, h⟩
    obtain ⟨value, hvalue, rfl⟩ := Option.map_eq_some_iff.1 h
    exact hvalue
  · intro h
    exact ⟨s.name, hall, by rw [h, Option.map_some]⟩

/-- The groups hold what is asked for. -/
theorem flatten_groups (o : SocketOptions) : o.groups.flatten = o.wanted := by
  obtain ⟨noDelay, send, receive, keepAlive⟩ := o
  cases send <;> cases receive <;> cases keepAlive <;> rfl

/-! ### Groups -/

/-- Everything that a setting waits for is taken. -/
def isDue (refusal : OptionName → Option OsError) (s : OptionSetting) : Bool :=
  s.name.waitsFor.all fun name => (refusal name).isNone

/-- In a group that comes after `before`, each setting waits for all settings before it. -/
def Chained : List OptionName → List OptionSetting → Prop
  | _, [] => True
  | before, s :: rest => s.name.waitsFor = before ∧ Chained (before ++ [s.name]) rest

theorem chained_groups (o : SocketOptions) : ∀ group ∈ o.groups, Chained [] group := by
  obtain ⟨noDelay, send, receive, keepAlive⟩ := o
  cases send <;> cases receive <;> cases keepAlive <;>
    simp [groups, Chained, OptionName.waitsFor]

/-- Nothing of a group is due after a refusal. -/
theorem Chained.filter_eq_nil (h : Chained before group) {name : OptionName}
    (hname : name ∈ before) {error : OsError} (hrefused : refusal name = some error) :
    group.filter (isDue refusal) = [] := by
  induction group generalizing before with
  | nil => rfl
  | cons s rest ih =>
      obtain ⟨hwaits, hrest⟩ := h
      have hdue : isDue refusal s = false := by
        rw [isDue, hwaits, List.all_eq_false]
        exact ⟨name, hname, by simp [hrefused]⟩
      rw [List.filter_cons_of_neg (by simp [hdue])]
      exact ih hrest (List.mem_append_left _ hname)

/-- **What is attempted of a group**: the settings whose predecessors are taken. -/
theorem applyGroup_fst (h : Chained before group) (hbefore : ∀ name ∈ before, refusal name = none) :
    (applyGroup refusal group).1 = group.filter (isDue refusal) := by
  induction group generalizing before with
  | nil => rfl
  | cons s rest ih =>
      obtain ⟨hwaits, hrest⟩ := h
      have hdue : isDue refusal s = true := by
        rw [isDue, hwaits, List.all_eq_true]
        intro name hname
        rw [hbefore name hname, Option.isNone_none]
      rw [List.filter_cons_of_pos hdue, applyGroup]
      cases hs : refusal s.name with
      | some error =>
          rw [hrest.filter_eq_nil (List.mem_append_right _ (List.mem_singleton_self _)) hs]
      | none =>
          have htaken : ∀ name ∈ before ++ [s.name], refusal name = none := by
            intro name hname
            rcases List.mem_append.1 hname with hname | hname
            · exact hbefore name hname
            · rw [List.mem_singleton.1 hname, hs]
          exact congrArg (s :: ·) (ih hrest htaken)

/-- **What is reported of a group**: the first refusal. -/
theorem applyGroup_snd (group : List OptionSetting) :
    (applyGroup refusal group).2 = group.findSome? fun s => refusal s.name := by
  induction group with
  | nil => rfl
  | cons s rest ih =>
      rw [applyGroup, List.findSome?_cons]
      cases refusal s.name with
      | some error => rfl
      | none => exact ih

/-- The refusal that is reported is met among the settings that are attempted. -/
theorem findSome?_applyGroup (group : List OptionSetting) :
    ((applyGroup refusal group).1.findSome? fun s => refusal s.name) =
      (applyGroup refusal group).2 := by
  induction group with
  | nil => rfl
  | cons s rest ih =>
      rw [applyGroup]
      cases hs : refusal s.name with
      | some error => simp only [List.findSome?_cons, hs]
      | none => simpa only [List.findSome?_cons, hs] using ih

/-! ### Configurations -/

/-- The first result in the lists together is the first of their first results. -/
theorem findSome?_flatten {α β : Type} (f : α → Option β) (lists : List (List α)) :
    lists.flatten.findSome? f = lists.findSome? fun list => list.findSome? f := by
  rw [← List.head?_filterMap, List.filterMap_flatten, List.head?_flatten, List.findSome?_map]
  simp only [Function.comp_def, List.head?_filterMap]

theorem apply_fst (o : SocketOptions) (refusal : OptionName → Option OsError) :
    (o.apply refusal).1 = o.wanted.filter (isDue refusal) := by
  have hgroups : ∀ group ∈ o.groups,
      (applyGroup refusal group).1 = group.filter (isDue refusal) := fun group hgroup =>
    applyGroup_fst (chained_groups o group hgroup) nofun
  calc (o.apply refusal).1
      = (o.groups.map fun group => (applyGroup refusal group).1).flatten := by
        rw [apply, List.flatMap_map, List.flatMap_def]
    _ = (o.groups.map (List.filter (isDue refusal))).flatten := by
        rw [List.map_congr_left hgroups]
    _ = o.wanted.filter (isDue refusal) := by
        rw [← List.filter_flatten, flatten_groups]

theorem apply_snd (o : SocketOptions) (refusal : OptionName → Option OsError) :
    (o.apply refusal).2 = o.wanted.findSome? fun s => refusal s.name := by
  simp only [← flatten_groups, findSome?_flatten, apply, List.findSome?_map, Function.comp_def,
    applyGroup_snd]

/-- The refusal that is reported is the first among the settings that are attempted. -/
theorem findSome?_apply (o : SocketOptions) (refusal : OptionName → Option OsError) :
    ((o.apply refusal).1.findSome? fun s => refusal s.name) = (o.apply refusal).2 := by
  simp only [apply, List.flatMap_def, findSome?_flatten, List.findSome?_map, Function.comp_def,
    findSome?_applyGroup]

/-- Everything that is asked for is due, unless a timing is refused that others wait for. -/
theorem isDue_wanted_iff : (∀ s ∈ o.wanted, isDue refusal s = true) ↔
    o.keepAlive = none ∨ refusal .keepIdle = none ∧ refusal .keepInterval = none := by
  constructor
  · intro h
    cases hk : o.keepAlive with
    | none => exact .inl rfl
    | some k =>
        have hcount := h ⟨.keepCount, min k.retries (2 ^ 31 - 1)⟩
          (mem_wanted_iff.2 (by rw [value?, hk, Option.map_some]))
        exact .inr (by simpa [isDue, OptionName.waitsFor] using hcount)
  · rintro h ⟨name, value⟩ hs
    have hvalue : o.value? name = some value := mem_wanted_iff.1 hs
    rcases h with hk | ⟨hidle, hinterval⟩
    · -- Without a keep-alive, nothing that waits is asked for.
      cases name <;> simp_all [value?, isDue, OptionName.waitsFor]
    · cases name <;> simp [isDue, OptionName.waitsFor, hidle, hinterval]

/-- **What is attempted of a configuration, and what is reported**, whatever the system refuses.
Each option that is asked for is attempted once, in order and with its value, except for the timings
of the keep-alive that come after a refused one.  So everything is attempted exactly when there is
no keep-alive, or when neither of the first two timings is refused.  What is reported is the first
refusal of all: that of the first setting that is attempted and refused, and no setting before it
would have been refused. -/
theorem options_attempted (o : SocketOptions) (refusal : OptionName → Option OsError) :
    (o.apply refusal).1 = o.wanted.filter (isDue refusal) ∧
    ((o.apply refusal).1 = o.wanted ↔
      o.keepAlive = none ∨ refusal .keepIdle = none ∧ refusal .keepInterval = none) ∧
    (o.apply refusal).2 = ((o.apply refusal).1.findSome? fun s => refusal s.name) ∧
    (o.apply refusal).2 = o.wanted.findSome? fun s => refusal s.name := by
  refine ⟨apply_fst o refusal, ?_, (findSome?_apply o refusal).symm, apply_snd o refusal⟩
  rw [apply_fst, List.filter_eq_self, isDue_wanted_iff]

/-- A socket with the default options, on a system that refuses the idle time of the keep-alive:
**two options that are asked for are not attempted**. -/
theorem timings_given_up :
    let refusal := fun name => if name = OptionName.keepIdle then some (OsError.mk 92) else none
    ({} : SocketOptions).wanted =
        [⟨.noDelay, 1⟩, ⟨.keepAlive, 1⟩, ⟨.keepIdle, 60⟩, ⟨.keepInterval, 10⟩, ⟨.keepCount, 6⟩] ∧
      ({} : SocketOptions).apply refusal =
        ([⟨.noDelay, 1⟩, ⟨.keepAlive, 1⟩, ⟨.keepIdle, 60⟩], some ⟨92⟩) := by
  decide

end SocketOptions

end Uplink
