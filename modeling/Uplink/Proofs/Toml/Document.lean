/-
Reading back a printed document.

The printer writes the plain entries of a table and then its tables, each under a header.  Every
header leads to a table at the end of those above it, so that all lines add to the end.

* `Uplink.Toml.Table.under` — a table at the end of other tables;
* `Uplink.Toml.Reads` — some lines are read, whatever follows;
* `Uplink.Toml.Printable` — what the printer writes so that it can be read;
* `Uplink.Toml.Printable.readsBack`, `Uplink.Toml.parse_print` — **what was printed reads back**.
-/

import Mathlib.Data.List.Nodup
import Uplink.Proofs.Toml.Reading

set_option relaxedAutoImplicit false
set_option autoImplicit false

namespace Uplink.Toml

/-! ### Tables that grow at their ends -/

namespace Table

variable {t : Table} {key : String} {node : Node}

theorem lookup_concat (h : t.lookup key = none) : (t ++ [(key, node)]).lookup key = some node := by
  rw [List.lookup_append, h]
  simp

/-- A key of more entries is still free after an entry with another key. -/
theorem lookup_concat_eq_none {α : Type} {entries : List (String × α)}
    (hkey : key ∉ entries.map (·.1)) {e : String × α} (he : e ∈ entries)
    (h : t.lookup e.1 = none) : (t ++ [(key, node)]).lookup e.1 = none := by
  have hne : e.1 ≠ key := fun heq => hkey (heq ▸ List.mem_map_of_mem (f := (·.1)) he)
  rw [List.lookup_append, h]
  simp [hne]

theorem replace_concat (h : t.lookup key = none) (node' : Node) :
    replace (t ++ [(key, node)]) key node' = t ++ [(key, node')] := by
  rw [List.lookup_eq_none_iff] at h
  have hother : t.map (fun entry => if entry.1 = key then (key, node') else entry) = t := by
    rw [List.map_congr_left (g := id), List.map_id]
    intro entry hentry
    have hne : entry.1 ≠ key := fun heq => by simpa [heq] using h entry hentry
    rw [if_neg hne, id]
  rw [replace, List.map_append, hother]
  simp

/-- A table at the end of a table, on each level after other entries. -/
def under : List (Table × String) → Table → Table
  | [], t => t
  | (before, key) :: levels, t => before ++ [(key, .table .header (under levels t))]

/-- The keys on the way are not those of entries before. -/
def Fresh (levels : List (Table × String)) : Prop := ∀ level ∈ levels, level.1.lookup level.2 = none

theorem Fresh.concat {levels : List (Table × String)} (h : Fresh levels)
    (hkey : t.lookup key = none) : Fresh (levels ++ [(t, key)]) :=
  List.forall_mem_append.2 ⟨h, List.forall_mem_singleton.2 hkey⟩

theorem under_concat (levels : List (Table × String)) (t u : Table) (key : String) :
    under (levels ++ [(t, key)]) u = under levels (t ++ [(key, .table .header u)]) := by
  induction levels with
  | nil => rfl
  | cons level levels ih => rw [List.cons_append, under, under, ih]

/-- A change is made where the keys lead. -/
theorem changeAt_under {change : Table → Option Table} {levels : List (Table × String)}
    {t t' : Table} (h : Fresh levels) (hc : change t = some t') :
    changeAt change (levels.map (·.2)) (under levels t) = some (under levels t') := by
  induction levels with
  | nil => exact hc
  | cons level levels ih =>
      have hfresh := h level List.mem_cons_self
      have hmore := ih fun other hother => h other (List.mem_cons_of_mem _ hother)
      rw [List.map_cons, changeAt, under, lookup_concat hfresh]
      simp only [hmore, Option.map_some, replace_concat hfresh]
      rfl

/-- A plain entry is added at the end. -/
theorem insertAt_under {levels : List (Table × String)} (h : Fresh levels)
    (hkey : t.lookup key = none) (data : Data) :
    insertAt (levels.map (·.2)) [key] data (under levels t) =
      some (under levels (t ++ [(key, .value data)])) := by
  refine changeAt_under h ?_
  rw [insertDotted, hkey]
  rfl

/-- A table is opened at the end. -/
theorem openAt_under {levels : List (Table × String)} (h : Fresh levels)
    (hkey : t.lookup key = none) :
    openAt (levels.map (·.2)) key (under levels t) = some (under (levels ++ [(t, key)]) []) := by
  rw [under_concat]
  refine changeAt_under h ?_
  simp only [hkey]

end Table

/-! ### Lines -/

/-- Some lines are read, whatever follows. -/
def Reads (p : Progress) (text : List Char) (q : Progress) : Prop :=
  ∀ rest fuel, (text ++ rest).length < fuel →
    ∃ left, rest.length < left ∧ lines fuel p (text ++ rest) = lines left q rest

theorem Reads.nil (p : Progress) : Reads p [] p := fun _ fuel hfuel => ⟨fuel, hfuel, rfl⟩

theorem Reads.append {p q r : Progress} {first second : List Char} (h : Reads p first q)
    (h' : Reads q second r) : Reads p (first ++ second) r := by
  intro rest fuel hfuel
  rw [List.append_assoc] at hfuel ⊢
  obtain ⟨left, hleft, heq⟩ := h (second ++ rest) fuel hfuel
  obtain ⟨left', hleft', heq'⟩ := h' rest left hleft
  exact ⟨left', hleft', heq.trans heq'⟩

/-- One line that is read. -/
theorem Reads.of_line {p q : Progress} {text : List Char} (hne : text ≠ [])
    (h : ∀ rest, ∃ cs, skipLines ((text ++ rest).length + 1) (text ++ rest) = some cs ∧
      cs ≠ [] ∧ line p cs = some (q, rest)) : Reads p text q := by
  intro rest fuel hfuel
  obtain ⟨cs, hskip, hcs, hline⟩ := h rest
  obtain ⟨left, rfl⟩ : ∃ n, fuel = n + 1 := Nat.exists_eq_add_one.2 (by omega)
  refine ⟨left, ?_, ?_⟩
  · have hpos := List.length_pos_iff.2 hne
    rw [List.length_append] at hfuel
    omega
  · obtain ⟨c, cs, rfl⟩ := List.exists_cons_of_ne_nil hcs
    rw [lines, hskip]
    simp only [hline]

/-- Nothing is skipped in front of a key. -/
theorem skipLines_bare {name : String} (h : IsBareKey name) (rest : List Char) (fuel : Nat) :
    skipLines (fuel + 1) (name.toList ++ rest) = some (name.toList ++ rest) := by
  obtain ⟨c, cs, hname, hc⟩ := h.head
  have hblank : skipBlank (name.toList ++ rest) = name.toList ++ rest :=
    dropWhile_of_stops (stops_bare h rest)
  rw [skipLines, skipComment, hblank, hname, List.cons_append]
  have hcomment : c ≠ '#' := ne_of_kind hc (by decide)
  have hnewline : c ≠ '\n' := ne_of_kind hc (by decide)
  have hreturn : c ≠ '\r' := ne_of_kind hc (by decide)
  simp [newline?, hcomment, hnewline, hreturn]

/-- A line with a key and a plain value. -/
theorem reads_entry {root root' : Table} {current : List String} {name text : String} {data : Data}
    (hname : IsBareKey name) (hspace : ∀ rest, Stops isSpace (text.toList ++ rest))
    (hvalue : ∀ rest fuel,
      value (fuel + 1) (text.toList ++ '\n' :: rest) = some (data, '\n' :: rest))
    (hroot : root.insertAt current [name] data = some root') :
    Reads ⟨root, current⟩ (name.toList ++ ' ' :: '=' :: ' ' :: (text.toList ++ ['\n']))
      ⟨root', current⟩ := by
  obtain ⟨c, cs, hcs, hc⟩ := hname.head
  refine .of_line (by simp [hcs]) fun rest => ?_
  have heq : name.toList ++ ' ' :: '=' :: ' ' :: (text.toList ++ ['\n']) ++ rest =
      name.toList ++ ' ' :: '=' :: ' ' :: (text.toList ++ '\n' :: rest) := by simp
  refine ⟨name.toList ++ ' ' :: '=' :: ' ' :: (text.toList ++ '\n' :: rest), ?_, ?_, ?_⟩
  · rw [heq]
    exact skipLines_bare hname _ _
  · simp [hcs]
  · have hkey (fuel : Nat) : key (fuel + 1)
        (name.toList ++ ' ' :: '=' :: ' ' :: (text.toList ++ '\n' :: rest)) =
          some ([name], '=' :: ' ' :: (text.toList ++ '\n' :: rest)) :=
      key_bare hname (stops_cons (by decide)) rfl (by decide) fuel
    have hblank : skipBlank (' ' :: (text.toList ++ '\n' :: rest)) = text.toList ++ '\n' :: rest :=
      dropWhile_of_stops (hspace _)
    have hbracket : c ≠ '[' := ne_of_kind hc (by decide)
    unfold line
    split
    next heq =>
      rw [hcs] at heq
      exact absurd (List.cons.inj heq).1 hbracket
    next heq =>
      rw [hcs] at heq
      exact absurd (List.cons.inj heq).1 hbracket
    next =>
      simp only [hkey, hblank, hvalue, hroot]
      rfl

/-- There are at least as many characters as parts in a key. -/
theorem length_le_intercalate {names : List String} (h : ∀ name ∈ names, IsBareKey name) :
    names.length ≤ (".".intercalate names).toList.length := by
  induction names with
  | nil => exact Nat.zero_le _
  | cons name names ih =>
      have hmore := ih fun n hn => h n (List.mem_cons_of_mem _ hn)
      have hpos := List.length_pos_iff.2 (h name List.mem_cons_self).1
      cases names with
      | nil =>
          rw [String.intercalate_singleton]
          exact hpos
      | cons other names =>
          rw [String.intercalate_cons_cons, String.toList_append, String.toList_append,
            List.length_append, List.length_append]
          simp only [List.length_cons] at hmore ⊢
          omega

/-- A key with dots starts with a bare character. -/
theorem intercalate_head {names : List String} (h : ∀ name ∈ names, IsBareKey name)
    (hne : names ≠ []) :
    ∃ c cs, (".".intercalate names).toList = c :: cs ∧ isBare c = true := by
  obtain ⟨name, names, rfl⟩ := List.exists_cons_of_ne_nil hne
  obtain ⟨c, cs, hname, hc⟩ := (h name List.mem_cons_self).head
  cases names with
  | nil => exact ⟨c, cs, by rw [String.intercalate_singleton, hname], hc⟩
  | cons other names =>
      refine ⟨c, cs ++ ".".toList ++ (".".intercalate (other :: names)).toList, ?_, hc⟩
      rw [String.intercalate_cons_cons, String.toList_append, String.toList_append, hname]
      rfl

/-- The key in a header. -/
theorem header_dotted {path : List String} {name : String}
    (h : ∀ n ∈ path ++ [name], IsBareKey n) (rest : List Char) :
    header ((".".intercalate (path ++ [name])).toList ++ ']' :: rest) =
      some ((path, name), ']' :: rest) := by
  have hlength := length_le_intercalate h
  have hfuel : (path ++ [name]).length ≤
      ((".".intercalate (path ++ [name])).toList ++ ']' :: rest).length + 1 := by
    have happend : ((".".intercalate (path ++ [name])).toList ++ ']' :: rest).length =
        (".".intercalate (path ++ [name])).toList.length + (']' :: rest).length :=
      List.length_append
    omega
  rw [header, key_dotted h (by simp) rest hfuel]
  simp

/-- A blank line and a header. -/
theorem reads_header {root root' : Table} (current : List String) {path : List String}
    {name : String} (h : ∀ n ∈ path ++ [name], IsBareKey n)
    (hroot : root.openAt path name = some root') :
    Reads ⟨root, current⟩
      ('\n' :: '[' :: ((".".intercalate (path ++ [name])).toList ++ [']', '\n']))
      ⟨root', path ++ [name]⟩ := by
  refine .of_line nofun fun rest => ?_
  have hheader := header_dotted h ('\n' :: rest)
  obtain ⟨c, cs, hdotted, hc⟩ := intercalate_head h (by simp)
  rw [hdotted] at hheader ⊢
  have hbracket : c ≠ '[' := ne_of_kind hc (by decide)
  refine ⟨'[' :: (c :: cs ++ ']' :: '\n' :: rest), ?_, nofun, ?_⟩
  · simp [skipLines, skipComment, skipBlank, isSpace, newline?]
  · unfold line
    split
    next heq => exact absurd (List.cons.inj (List.cons.inj heq).2).1 hbracket
    next heq =>
      cases heq
      simp only [hheader, hroot]
      rfl
    next hnone => exact absurd rfl (hnone _)

/-! ### Documents -/

/-- What the printer writes so that it can be read. -/
inductive Printable : Data → Prop
  | plain {data : Data} (h : IsPlain data) : Printable data
  | table {entries : List (String × Data)} (hkeys : (entries.map (·.1)).Nodup)
      (hbare : ∀ e ∈ entries, IsBareKey e.1) (h : ∀ e ∈ entries, Printable e.2) :
      Printable (.table entries)

/-- The plain entries of a table as they are read. -/
def plainNodes (entries : List (String × Data)) : Table :=
  entries.filterMap fun (key, data) => (printValue? data).map fun _ => (key, .value data)

mutual

/-- A printed part of a document as it is read. -/
def Node.ofData : Data → Node
  | .table entries => .table .header (plainNodes entries ++ tableNodes entries)
  | data => .value data

/-- The tables of a table as they are read. -/
def tableNodes : List (String × Data) → Table
  | [] => []
  | (key, .table sub) :: rest => (key, Node.ofData (.table sub)) :: tableNodes rest
  | _ :: rest => tableNodes rest

end

variable {levels : List (Table × String)} {entries : List (String × Data)}

theorem printPlain_cons {key text : String} {data : Data} (h : printValue? data = some text)
    (entries : List (String × Data)) : printPlain ((key, data) :: entries) =
      key ++ " = " ++ text ++ "\n" ++ printPlain entries := by
  simp only [printPlain, List.filterMap_cons, h, Option.map_some, String.join_cons]
  rfl

/-- The plain entries of a table are read one by one. -/
theorem reads_plain (hlevels : Table.Fresh levels) (hkeys : (entries.map (·.1)).Nodup)
    (hbare : ∀ e ∈ entries, IsBareKey e.1) (h : ∀ e ∈ entries, Printable e.2) (t : Table)
    (hfresh : ∀ e ∈ entries, t.lookup e.1 = none) :
    Reads ⟨Table.under levels t, levels.map (·.2)⟩ (printPlain entries).toList
      ⟨Table.under levels (t ++ plainNodes entries), levels.map (·.2)⟩ := by
  induction entries generalizing t with
  | nil => simpa [printPlain, plainNodes] using Reads.nil _
  | cons entry entries ih =>
      obtain ⟨key, data⟩ := entry
      obtain ⟨hkey, hkeys⟩ := List.nodup_cons.1 hkeys
      have hmore := ih hkeys (fun e he => hbare e (List.mem_cons_of_mem _ he))
        fun e he => h e (List.mem_cons_of_mem _ he)
      cases h _ List.mem_cons_self with
      | plain hplain =>
          obtain ⟨text, htext, hspace, hvalue⟩ := value_print hplain
          have hline := reads_entry (hbare _ List.mem_cons_self) hspace hvalue
            (Table.insertAt_under hlevels (hfresh _ List.mem_cons_self) data)
          have hprinted : (printPlain ((key, data) :: entries)).toList =
              key.toList ++ ' ' :: '=' :: ' ' :: (text.toList ++ ['\n']) ++
                (printPlain entries).toList := by
            rw [printPlain_cons htext]
            simp
          have hnodes : t ++ plainNodes ((key, data) :: entries) =
              t ++ [(key, .value data)] ++ plainNodes entries := by
            simp [plainNodes, htext]
          rw [hprinted, hnodes]
          exact hline.append (hmore _ fun e he =>
            Table.lookup_concat_eq_none hkey he (hfresh e (List.mem_cons_of_mem _ he)))
      -- Tables are passed over; they are printed after the plain entries.
      | table => exact hmore t fun e he => hfresh e (List.mem_cons_of_mem _ he)

/-- The name of a table below another one. -/
theorem intercalate_concat {names : List String} (h : ∀ name ∈ names, IsBareKey name)
    {path : String} (hpath : path = ".".intercalate names) (key : String) :
    (if path = "" then key else s!"{path}.{key}") = ".".intercalate (names ++ [key]) := by
  by_cases hne : names = []
  · subst hpath hne
    simp
  · obtain ⟨c, cs, hcs, -⟩ := intercalate_head h hne
    have hname : path ≠ "" := fun hnone => by
      rw [← hpath, hnone] at hcs
      cases hcs
    rw [if_neg hname, String.intercalate_append_of_ne_nil hne (List.cons_ne_nil key []),
      String.intercalate_singleton, hpath]
    rfl

theorem printTables_cons {names : List String} (h : ∀ name ∈ names, IsBareKey name) (key : String)
    (sub rest : List (String × Data)) :
    (printTables (".".intercalate names) ((key, .table sub) :: rest)).toList =
      '\n' :: '[' :: ((".".intercalate (names ++ [key])).toList ++ [']', '\n']) ++
        ((printAt (".".intercalate (names ++ [key])) (.table sub)).toList ++
          (printTables (".".intercalate names) rest).toList) := by
  have hname := intercalate_concat h rfl key
  rw [printTables]
  simp only [hname]
  generalize ".".intercalate (names ++ [key]) = name
  rw [String.toList_append, String.toList_append, List.append_assoc]
  congr 1
  change ("\n[" ++ name ++ "]\n").toList = _
  simp

/-- What is no table is not among the tables. -/
theorem tableNodes_of_plain {key : String} {data : Data} (h : ∀ sub, data ≠ .table sub)
    (rest : List (String × Data)) : tableNodes ((key, data) :: rest) = tableNodes rest := by
  cases data with
  | table sub => exact absurd rfl (h sub)
  | _ => rfl

theorem printTables_of_plain {key : String} {data : Data} (h : ∀ sub, data ≠ .table sub)
    (path : String) (rest : List (String × Data)) :
    printTables path ((key, data) :: rest) = printTables path rest := by
  cases data with
  | table sub => exact absurd rfl (h sub)
  | _ => rfl

/-- The printed form of a table is read as the table, below any other. -/
def ReadsBack (data : Data) : Prop :=
  ∀ entries, data = .table entries → ∀ levels, Table.Fresh levels →
    (∀ n ∈ levels.map (·.2), IsBareKey n) →
    ∃ current, Reads ⟨Table.under levels [], levels.map (·.2)⟩
      (printAt (".".intercalate (levels.map (·.2))) data).toList
      ⟨Table.under levels (plainNodes entries ++ tableNodes entries), current⟩

/-- The tables of a table are read one by one. -/
theorem reads_tables (hlevels : Table.Fresh levels)
    (hpath : ∀ n ∈ levels.map (·.2), IsBareKey n) (hkeys : (entries.map (·.1)).Nodup)
    (hbare : ∀ e ∈ entries, IsBareKey e.1) (h : ∀ e ∈ entries, ReadsBack e.2) (t : Table)
    (hfresh : ∀ e ∈ entries, (∃ sub, e.2 = .table sub) → t.lookup e.1 = none)
    (current : List String) :
    ∃ current', Reads ⟨Table.under levels t, current⟩
      (printTables (".".intercalate (levels.map (·.2))) entries).toList
      ⟨Table.under levels (t ++ tableNodes entries), current'⟩ := by
  induction entries generalizing t current with
  | nil =>
      refine ⟨current, ?_⟩
      rw [printTables, tableNodes, List.append_nil]
      exact .nil _
  | cons entry entries ih =>
      obtain ⟨key, data⟩ := entry
      obtain ⟨hkey, hkeys⟩ := List.nodup_cons.1 hkeys
      have hmore := ih hkeys (fun e he => hbare e (List.mem_cons_of_mem _ he))
        fun e he => h e (List.mem_cons_of_mem _ he)
      by_cases htable : ∃ sub, data = .table sub
      · obtain ⟨sub, rfl⟩ := htable
        have hfree := hfresh _ List.mem_cons_self ⟨sub, rfl⟩
        -- The header leads one level down, where the table is read.
        have hnames : (levels ++ [(t, key)]).map (·.2) = levels.map (·.2) ++ [key] :=
          List.map_append
        have hpath' : ∀ n ∈ levels.map (·.2) ++ [key], IsBareKey n :=
          List.forall_mem_append.2
            ⟨hpath, List.forall_mem_singleton.2 (hbare _ List.mem_cons_self)⟩
        have hheader := reads_header current hpath' (Table.openAt_under hlevels hfree)
        obtain ⟨below, hsub⟩ := h _ List.mem_cons_self sub rfl (levels ++ [(t, key)])
          (hlevels.concat hfree) (hnames ▸ hpath')
        rw [hnames, Table.under_concat levels t (plainNodes sub ++ tableNodes sub)] at hsub
        -- The tables after it are read where it was.
        obtain ⟨after, hrest⟩ := hmore (t ++ [(key, Node.ofData (.table sub))])
          (fun e he htable => Table.lookup_concat_eq_none hkey he
            (hfresh e (List.mem_cons_of_mem _ he) htable)) below
        have hnodes : t ++ tableNodes ((key, .table sub) :: entries) =
            t ++ [(key, Node.ofData (.table sub))] ++ tableNodes entries := by
          simp [tableNodes]
        refine ⟨after, ?_⟩
        rw [printTables_cons hpath, hnodes]
        exact hheader.append (hsub.append hrest)
      · have hplain : ∀ sub, data ≠ .table sub := fun sub heq => htable ⟨sub, heq⟩
        rw [printTables_of_plain hplain, tableNodes_of_plain hplain]
        exact hmore t (fun e he => hfresh e (List.mem_cons_of_mem _ he)) current

/-- **A printed table is read as the table**, below any other. -/
theorem Printable.readsBack {data : Data} (h : Printable data) : ReadsBack data := by
  induction h with
  | plain hplain =>
      rintro entries rfl
      exact absurd hplain id
  | @table entries hkeys hbare hprintable ih =>
      rintro _ ⟨⟩ levels hlevels hpath
      have hfirst := reads_plain hlevels hkeys hbare hprintable [] fun _ _ => rfl
      have hfresh : ∀ e ∈ entries, (∃ sub, e.2 = .table sub) →
          (plainNodes entries).lookup e.1 = none := by
        rintro e he ⟨sub, hsub⟩
        rw [List.lookup_eq_none_iff]
        intro node hnode
        obtain ⟨⟨key, data⟩, hmem, hsome⟩ := List.mem_filterMap.1 hnode
        obtain ⟨text, htext, rfl⟩ := Option.map_eq_some_iff.1 hsome
        refine bne_iff_ne.2 fun heq => ?_
        -- One key has one value, and a table has no plain form.
        have hsame := List.inj_on_of_nodup_map hkeys he hmem heq
        rw [hsame] at hsub
        cases hsub
        cases htext
      obtain ⟨current, hsecond⟩ := reads_tables hlevels hpath hkeys hbare ih (plainNodes entries)
        hfresh (levels.map (·.2))
      refine ⟨current, ?_⟩
      rw [printAt, String.toList_append]
      exact hfirst.append hsecond

theorem stops_printPlain {p : Char → Bool} (hp : ∀ c, isBare c = true → p c = false)
    (hbare : ∀ e ∈ entries, IsBareKey e.1) {cs : List Char} (h : Stops p cs) :
    Stops p ((printPlain entries).toList ++ cs) := by
  induction entries with
  | nil => exact h
  | cons entry entries ih =>
      obtain ⟨key, data⟩ := entry
      cases htext : printValue? data with
      | some text =>
          obtain ⟨c, key', hkey, hc⟩ := (hbare _ List.mem_cons_self).head
          rw [printPlain_cons htext]
          simp only [String.toList_append, hkey, List.cons_append]
          exact stops_cons (hp c hc)
      | none =>
          have hskip : printPlain ((key, data) :: entries) = printPlain entries := by
            simp [printPlain, htext]
          rw [hskip]
          exact ih fun e he => hbare e (List.mem_cons_of_mem _ he)

theorem stops_printTables {p : Char → Bool} (hp : p '\n' = false) {names : List String}
    (h : ∀ name ∈ names, IsBareKey name) :
    Stops p (printTables (".".intercalate names) entries).toList := by
  induction entries with
  | nil => nofun
  | cons entry entries ih =>
      obtain ⟨key, data⟩ := entry
      by_cases htable : ∃ sub, data = .table sub
      · obtain ⟨sub, rfl⟩ := htable
        rw [printTables_cons h]
        exact stops_cons hp
      · rw [printTables_of_plain fun sub heq => htable ⟨sub, heq⟩]
        exact ih

/-- A document without a byte order mark is read as it is. -/
theorem parse_of_stops {document : String} (h : Stops (· = '\ufeff') document.toList) :
    parse document =
      (lines (document.toList.length + 1) {} document.toList).map fun p => p.root.data := by
  unfold parse
  split
  next heq => exact absurd (h '\ufeff' (by rw [heq]; rfl)) (by decide)
  next => rfl

/-- Nothing is left to be read. -/
theorem lines_nil (p : Progress) (fuel : Nat) : lines (fuel + 1) p [] = some p := rfl

/-- **What was printed reads back**: a table is read with its plain entries before its tables, and
all of them are sorted by key in the end. -/
theorem parse_print (h : Printable (.table entries)) :
    parse (print (.table entries)) = some (Node.ofData (.table entries)).data := by
  have hbare : ∀ e ∈ entries, IsBareKey e.1 := by
    cases h with
    | plain h => exact absurd h id
    | table _ hbare _ => exact hbare
  have hmark : Stops (· = '\ufeff') (print (.table entries)).toList := by
    rw [print, printAt, String.toList_append, ← String.intercalate_nil]
    refine stops_printPlain (fun c hc => ?_) hbare (stops_printTables (by decide) nofun)
    simpa using ne_of_kind hc (by decide)
  obtain ⟨current, hreads⟩ := h.readsBack entries rfl [] nofun nofun
  obtain ⟨left, hleft, hlines⟩ := hreads [] _ (Nat.lt_succ_self _)
  obtain ⟨left, rfl⟩ : ∃ n, left = n + 1 := Nat.exists_eq_add_one.2 (by omega)
  rw [List.append_nil, lines_nil] at hlines
  rw [parse_of_stops hmark]
  exact congrArg (Option.map fun p => p.root.data) hlines

end Uplink.Toml
