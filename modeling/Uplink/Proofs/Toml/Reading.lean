/-
Reading back what was printed: keys, texts and numbers.

A reader that meets the printed form of something takes exactly that, and leaves what follows it.

* `Uplink.Toml.Stops` — where a run of characters ends;
* `Uplink.Toml.IsBareKey`, `Uplink.Toml.IsPrintable` — the keys and the characters that the printer
  can write;
* `Uplink.Toml.key_bare`, `Uplink.Toml.key_dotted` — keys;
* `Uplink.Toml.string_printText`, `Uplink.Toml.integer?_toString` — texts and numbers;
* `Uplink.Toml.value_print` — **a printed value reads back as the value**.
-/

import Uplink.Toml.Document
import Uplink.Toml.Printer

set_option relaxedAutoImplicit false
set_option autoImplicit false

namespace Uplink.Toml

/-! ### Runs of characters -/

/-- No character that satisfies `p` stands in front. -/
def Stops (p : Char → Bool) (cs : List Char) : Prop := ∀ c ∈ cs.head?, p c = false

theorem stops_cons {p : Char → Bool} {c : Char} {cs : List Char} (h : p c = false) :
    Stops p (c :: cs) := by
  rintro d ⟨⟩
  exact h

theorem dropWhile_of_stops {p : Char → Bool} {cs : List Char} (h : Stops p cs) :
    cs.dropWhile p = cs := by
  cases cs with
  | nil => rfl
  | cons c cs =>
      have hc : p c = false := h c rfl
      simp [hc]

theorem takeWhile_of_stops {p : Char → Bool} {cs : List Char} (h : Stops p cs) :
    cs.takeWhile p = [] := by
  cases cs with
  | nil => rfl
  | cons c cs =>
      have hc : p c = false := h c rfl
      simp [hc]

theorem takeWhile_append_stops {p : Char → Bool} {front rest : List Char}
    (h : ∀ c ∈ front, p c = true) (hr : Stops p rest) :
    (front ++ rest).takeWhile p = front := by
  rw [List.takeWhile_append_of_pos h, takeWhile_of_stops hr, List.append_nil]

theorem dropWhile_append_stops {p : Char → Bool} {front rest : List Char}
    (h : ∀ c ∈ front, p c = true) (hr : Stops p rest) :
    (front ++ rest).dropWhile p = rest := by
  rw [List.dropWhile_append_of_pos h, dropWhile_of_stops hr]

/-- A character of a kind is none that is not of that kind. -/
theorem ne_of_kind {p : Char → Bool} {c d : Char} (hc : p c = true) (hd : p d = false) : c ≠ d := by
  rintro rfl
  rw [hc] at hd
  cases hd

theorem isSpace_eq_false {c : Char} (hspace : c ≠ ' ') (htab : c ≠ '\t') : isSpace c = false := by
  simp [isSpace, hspace, htab]

/-! ### Keys -/

/-- A key that needs no quotes. -/
def IsBareKey (name : String) : Prop := name.toList ≠ [] ∧ name.toList.all isBare = true

instance (name : String) : Decidable (IsBareKey name) := inferInstanceAs (Decidable (_ ∧ _))

theorem IsBareKey.all {name : String} (h : IsBareKey name) : ∀ c ∈ name.toList, isBare c = true :=
  List.all_eq_true.1 h.2

/-- A bare key starts with a bare character. -/
theorem IsBareKey.head {name : String} (h : IsBareKey name) :
    ∃ c cs, name.toList = c :: cs ∧ isBare c = true := by
  obtain ⟨c, cs, hname⟩ := List.exists_cons_of_ne_nil h.1
  exact ⟨c, cs, hname, h.all c (by rw [hname]; exact List.mem_cons_self)⟩

theorem keyPart_bare {name : String} (h : IsBareKey name) {rest : List Char}
    (hr : Stops isBare rest) : keyPart (name.toList ++ rest) = some (name, rest) := by
  obtain ⟨c, cs, hname, hc⟩ := h.head
  unfold keyPart
  split
  next heq =>
    rw [hname] at heq
    exact absurd (List.cons.inj heq).1 (ne_of_kind hc (by decide))
  next heq =>
    rw [hname] at heq
    exact absurd (List.cons.inj heq).1 (ne_of_kind hc (by decide))
  next =>
    simp only [takeWhile_append_stops h.all hr, dropWhile_append_stops h.all hr, if_neg h.1,
      String.ofList_toList]

theorem stops_bare {name : String} (h : IsBareKey name) (rest : List Char) :
    Stops isSpace (name.toList ++ rest) := by
  obtain ⟨c, cs, hname, hc⟩ := h.head
  rw [hname]
  exact stops_cons (isSpace_eq_false (ne_of_kind hc (by decide)) (ne_of_kind hc (by decide)))

/-- A key that no dot follows. -/
theorem key_bare {name : String} (h : IsBareKey name) {rest after : List Char} {c : Char}
    (hr : Stops isBare rest) (hafter : skipBlank rest = c :: after) (hc : c ≠ '.') (fuel : Nat) :
    key (fuel + 1) (name.toList ++ rest) = some ([name], c :: after) := by
  rw [key, skipBlank, dropWhile_of_stops (stops_bare h rest), keyPart_bare h hr]
  simp only [hafter]
  split
  next heq => exact absurd (List.cons.inj heq).1 hc
  next => rfl

/-- The first part of a key with dots. -/
theorem key_part {name : String} (h : IsBareKey name) (rest : List Char) (fuel : Nat) :
    key (fuel + 1) (name.toList ++ '.' :: rest) =
      (key fuel rest).map fun (names, rest) => (name :: names, rest) := by
  have hdot : Stops isBare ('.' :: rest) := stops_cons (by decide)
  rw [key, skipBlank, dropWhile_of_stops (stops_bare h _), keyPart_bare h hdot]
  rfl

/-- A key with dots, up to the bracket that closes a header. -/
theorem key_dotted {names : List String} (h : ∀ name ∈ names, IsBareKey name) (hne : names ≠ [])
    (rest : List Char) {fuel : Nat} (hfuel : names.length ≤ fuel) :
    key fuel ((".".intercalate names).toList ++ ']' :: rest) = some (names, ']' :: rest) := by
  induction names generalizing fuel with
  | nil => exact absurd rfl hne
  | cons name names ih =>
      have hname := h name List.mem_cons_self
      obtain ⟨fuel, rfl⟩ : ∃ n, fuel = n + 1 := Nat.exists_eq_add_one.2 (by simp at hfuel; omega)
      cases names with
      | nil =>
          rw [String.intercalate_singleton]
          exact key_bare hname (stops_cons (by decide)) rfl (by decide) fuel
      | cons other names =>
          have hmore := ih (fun n hn => h n (List.mem_cons_of_mem _ hn)) nofun
            (Nat.le_of_succ_le_succ hfuel)
          rw [String.intercalate_cons_cons, String.toList_append, String.toList_append,
            List.append_assoc, List.append_assoc]
          refine (key_part hname _ fuel).trans ?_
          rw [List.append_eq, List.nil_append, hmore]
          rfl

/-! ### Texts -/

/-- A character that the printer writes so that it can be read. -/
def IsPrintable (c : Char) : Prop := isControl c = false ∨ c = '\n' ∨ c = '\r'

/-- A printed character is never the closing quote. -/
theorem printChar_head (c : Char) : ∃ d ds, (printChar c).toList = d :: ds ∧ d ≠ '"' := by
  unfold printChar
  split
  · exact ⟨_, _, rfl, by decide⟩
  split
  · exact ⟨_, _, rfl, by decide⟩
  split
  · exact ⟨_, _, rfl, by decide⟩
  split
  · exact ⟨_, _, rfl, by decide⟩
  split
  · exact ⟨_, _, rfl, by decide⟩
  next hquote _ _ _ _ => exact ⟨c, [], String.toList_singleton c, hquote⟩

theorem basic_printChar {c : Char} (h : IsPrintable c) (rest : List Char) (fuel : Nat) :
    basic (fuel + 1) ((printChar c).toList ++ rest) = prependTo c (basic fuel rest) := by
  unfold printChar
  split
  · next hc => subst hc; rfl
  split
  · next hc => subst hc; rfl
  split
  · next hc => subst hc; rfl
  split
  · next hc => subst hc; rfl
  split
  · next hc => subst hc; rfl
  · next hquote hslash hnewline htab hreturn =>
    have hcontrol : isControl c = false := by
      rcases h with h | h | h
      · exact h
      · exact absurd h hnewline
      · exact absurd h hreturn
    rw [show c.toString.toList = [c] from String.toList_singleton c]
    change basic (fuel + 1) (c :: rest) = _
    rw [basic.eq_def]
    split <;> simp_all

theorem basic_printText {text : List Char} (h : ∀ c ∈ text, IsPrintable c) (rest : List Char)
    {fuel : Nat} (hfuel : text.length < fuel) :
    basic fuel (text.flatMap (fun c => (printChar c).toList) ++ '"' :: rest) =
      some (text, rest) := by
  induction text generalizing fuel with
  | nil =>
      obtain ⟨fuel, rfl⟩ : ∃ n, fuel = n + 1 := Nat.exists_eq_add_one.2 hfuel
      rfl
  | cons c text ih =>
      obtain ⟨fuel, rfl⟩ : ∃ n, fuel = n + 1 := Nat.exists_eq_add_one.2 (by omega)
      rw [List.flatMap_cons, List.append_assoc, basic_printChar (h c List.mem_cons_self),
        ih (fun d hd => h d (List.mem_cons_of_mem _ hd)) (Nat.lt_of_succ_lt_succ hfuel)]
      rfl

theorem length_le_printed (text : List Char) :
    text.length ≤ (text.flatMap fun c => (printChar c).toList).length := by
  induction text with
  | nil => exact Nat.le_refl _
  | cons c text ih =>
      obtain ⟨d, ds, hprinted, -⟩ := printChar_head c
      rw [List.flatMap_cons, hprinted, List.length_append, List.length_cons, List.length_cons]
      omega

/-- A printed text, up to the end of its line. -/
theorem string_printText {text : String} (h : ∀ c ∈ text.toList, IsPrintable c)
    (rest : List Char) :
    string ((printText text).toList ++ '\n' :: rest) = some (text.toList, '\n' :: rest) := by
  generalize hbody : (text.toList.flatMap fun c => (printChar c).toList) = body
  have hprinted : (printText text).toList ++ '\n' :: rest =
      '"' :: (body ++ '"' :: '\n' :: rest) := by
    simp [printText, String.toList_join, List.flatMap_map, hbody]
  have hlength := length_le_printed text.toList
  have hread : basic ((body ++ '"' :: '\n' :: rest).length + 1) (body ++ '"' :: '\n' :: rest) =
      some (text.toList, '\n' :: rest) := by
    subst hbody
    refine basic_printText h _ ?_
    rw [List.length_append]
    omega
  rw [hprinted]
  unfold string
  split
  next heq =>
    -- An empty text is followed by the end of the line, any other by a character of its own.
    have htail := (List.cons.inj heq).2
    cases htext : text.toList with
    | nil =>
        rw [htext] at hbody
        subst hbody
        exact absurd (List.cons.inj (List.cons.inj htail).2).1 (by decide)
    | cons c cs =>
        obtain ⟨d, ds, hd, hne⟩ := printChar_head c
        rw [htext, List.flatMap_cons, hd] at hbody
        subst hbody
        exact absurd (List.cons.inj htail).1 hne
  next heq => exact absurd (List.cons.inj heq).1 (by decide)
  next => exact hread

/-! ### Numbers -/

theorem isDigit_of_mem {n : Nat} {c : Char} (h : c ∈ Nat.toDigits 10 n) : c.isDigit = true :=
  Nat.isDigit_of_mem_toDigits (b := 10) (by decide) (by decide) h

theorem digitIn?_of_isDigit {c : Char} (h : c.isDigit = true) :
    digitIn? 10 c = some (c.toNat - 48) := by
  have hc : 48 ≤ c.toNat ∧ c.toNat ≤ 57 := by simpa [Char.isDigit_iff_toNat] using h
  have hhex : hexDigit? c = some (c.toNat - 48) := if_pos hc
  rw [digitIn?, hhex]
  exact if_pos (by omega)

theorem digits?_of_isDigit {cs : List Char} (h : ∀ c ∈ cs, c.isDigit = true) (hne : cs ≠ []) :
    digits? 10 cs = some (cs.map fun c => c.toNat - 48) := by
  induction cs with
  | nil => exact absurd rfl hne
  | cons c cs ih =>
      have hc := digitIn?_of_isDigit (h c List.mem_cons_self)
      cases cs with
      | nil => rw [digits?, hc]; rfl
      | cons d cs =>
          have hmore := ih (fun d hd => h d (List.mem_cons_of_mem _ hd)) nofun
          have hd : d ≠ '_' := ne_of_kind (h d (by simp)) (by decide)
          unfold digits?
          split
          next heq => cases heq
          next heq => cases heq
          next heq => exact absurd (List.cons.inj (List.cons.inj heq).2).1 hd
          next heq =>
            cases heq
            rw [hc, hmore]
            rfl

theorem ofDigits_eq (cs : List Char) :
    ofDigits 10 (cs.map fun c => c.toNat - 48) = Nat.ofDigitChars 10 cs 0 := by
  rw [ofDigits, Nat.ofDigitChars_eq_foldl, List.foldl_map]
  congr 1
  funext n c
  exact congrArg (· + _) (Nat.mul_comm n 10)

/-- A number does not start with a zero, unless it is zero. -/
theorem toDigits_head {n : Nat} {cs : List Char} (h : Nat.toDigits 10 n = '0' :: cs) :
    cs = [] := by
  induction n using Nat.strongRecOn generalizing cs with
  | ind n ih =>
      by_cases hlt : n < 10
      · rw [Nat.toDigits_of_lt_base hlt] at h
        exact (List.cons.inj h).2.symm
      · rw [Nat.toDigits_of_base_le (by decide) (Nat.not_lt.1 hlt)] at h
        obtain ⟨d, ds, hfront⟩ := List.exists_cons_of_ne_nil
          (Nat.toDigits_ne_nil (n := n / 10) (b := 10))
        rw [hfront] at h
        obtain rfl := (List.cons.inj h).1
        have hzero : n / 10 = 0 := by
          rw [← Nat.ofDigitChars_ten_toDigits (n := n / 10), hfront, ih _ (by omega) hfront]
          rfl
        omega

theorem decimal?_toDigits (n : Nat) : decimal? (Nat.toDigits 10 n) = some n := by
  have hdigits := digits?_of_isDigit (fun c => isDigit_of_mem (n := n)) Nat.toDigits_ne_nil
  have hvalue := ofDigits_eq (Nat.toDigits 10 n)
  rw [Nat.ofDigitChars_ten_toDigits] at hvalue
  unfold decimal?
  rw [hdigits]
  split
  next heq =>
    -- A zero in front of other digits.
    obtain ⟨c, cs, hcs⟩ := List.exists_cons_of_ne_nil (Nat.toDigits_ne_nil (n := n) (b := 10))
    have hmap := Option.some.inj heq
    rw [hcs, List.map_cons] at hmap
    obtain ⟨hc, hrest⟩ := List.cons.inj hmap
    have hdigit : c.isDigit = true :=
      isDigit_of_mem (n := n) (by rw [hcs]; exact List.mem_cons_self)
    obtain rfl : c = '0' := by
      have hle : 48 ≤ c.toNat := (Char.isDigit_iff_toNat.1 hdigit).1
      exact Char.toNat_inj.1 (show c.toNat = 48 by omega)
    rw [toDigits_head hcs] at hrest
    cases hrest
  next heq =>
    cases heq
    rw [hvalue]
  next heq => cases heq

theorem splitSign_toDigits (n : Nat) :
    splitSign (Nat.toDigits 10 n) = (false, Nat.toDigits 10 n) := by
  have hhead {c : Char} {cs : List Char} (h : Nat.toDigits 10 n = c :: cs) : c.isDigit = true :=
    isDigit_of_mem (n := n) (by rw [h]; exact List.mem_cons_self)
  unfold splitSign
  split
  next heq => exact absurd (hhead heq) (by decide)
  next heq => exact absurd (hhead heq) (by decide)
  next => rfl

/-- The digits of a whole number, after a sign if it is negative. -/
theorem toList_toString (n : Int) : (toString n).toList =
    if 0 ≤ n then Nat.toDigits 10 n.toNat else '-' :: Nat.toDigits 10 (-n).toNat := by
  rw [Int.toString_eq_repr, Int.repr_eq_if]
  split
  · exact Nat.toList_repr
  · rw [String.toList_append, Nat.toList_repr]
    rfl

theorem integer?_toString (n : Int) : integer? (toString n).toList = some n := by
  -- Only numbers of other bases start with a zero and go on.
  rw [toList_toString]
  unfold integer?
  split
  next heq =>
    split at heq
    · cases toDigits_head heq
    · cases heq
  next heq =>
    split at heq
    · cases toDigits_head heq
    · cases heq
  next heq =>
    split at heq
    · cases toDigits_head heq
    · cases heq
  next =>
    by_cases hn : 0 ≤ n
    · rw [if_pos hn, splitSign_toDigits]
      simp [decimal?_toDigits]
      omega
    · rw [if_neg hn]
      simp [splitSign, decimal?_toDigits]
      omega

/-! ### Values -/

/-- A run of scalar characters, up to the end of its line. -/
theorem scalar_append {cs : List Char} (h : ∀ c ∈ cs, isScalarChar c = true) (rest : List Char) :
    scalar (cs ++ '\n' :: rest) = (scalar? cs).map fun v => (v, '\n' :: rest) := by
  have hstop : Stops isScalarChar ('\n' :: rest) := stops_cons (by decide)
  unfold scalar
  rw [takeWhile_append_stops h hstop, dropWhile_append_stops h hstop]
  rfl

/-- A printed number consists of digits, and perhaps a sign. -/
theorem mem_toString {n : Int} {c : Char} (h : c ∈ (toString n).toList) :
    c.isDigit = true ∨ c = '-' := by
  rw [toList_toString] at h
  split at h
  · exact .inl (isDigit_of_mem h)
  · rcases List.mem_cons.1 h with rfl | h
    · exact .inr rfl
    · exact .inl (isDigit_of_mem h)

theorem scalar?_toString (n : Int) : scalar? (toString n).toList = some (.int n) := by
  have hletter {c : Char} (hc : c.isDigit = false ∧ c ≠ '-') {word : List Char}
      (hword : c ∈ word) : (toString n).toList ≠ word := by
    rintro rfl
    rcases mem_toString hword with h | h
    · rw [hc.1] at h
      cases h
    · exact hc.2 h
  unfold scalar?
  rw [if_neg (hletter (c := 't') (by decide) (by decide)),
    if_neg (hletter (c := 'f') (by decide) (by decide)), integer?_toString]

/-- A run of scalar characters is read as a scalar. -/
theorem value_append {cs : List Char} (h : ∀ c ∈ cs, isScalarChar c = true) (hne : cs ≠ [])
    (rest : List Char) (fuel : Nat) :
    value (fuel + 1) (cs ++ '\n' :: rest) = (scalar? cs).map fun v => (v, '\n' :: rest) := by
  rw [← scalar_append h]
  obtain ⟨c, cs, rfl⟩ := List.exists_cons_of_ne_nil hne
  have hother {d : Char} (hd : isScalarChar d = false) : c ≠ d :=
    ne_of_kind (h c List.mem_cons_self) hd
  rw [value.eq_def]
  simp only
  split
  next heq => exact absurd (List.cons.inj heq).1 (hother (by decide))
  next heq => exact absurd (List.cons.inj heq).1 (hother (by decide))
  next heq => exact absurd (List.cons.inj heq).1 (hother (by decide))
  next heq => exact absurd (List.cons.inj heq).1 (hother (by decide))
  next => rfl

/-- The values that are printed on a line. -/
def IsPlain : Data → Prop
  | .bool _ | .int _ => True
  | .text text => ∀ c ∈ text.toList, IsPrintable c
  | _ => False

/-- **A printed value reads back as the value**, up to the end of its line. -/
theorem value_print {data : Data} (h : IsPlain data) :
    ∃ text, printValue? data = some text ∧ (∀ rest, Stops isSpace (text.toList ++ rest)) ∧
      ∀ rest fuel, value (fuel + 1) (text.toList ++ '\n' :: rest) = some (data, '\n' :: rest) := by
  cases data with
  | bool b =>
      refine ⟨_, rfl, fun rest => ?_, fun rest fuel => ?_⟩
      · cases b <;> exact stops_cons (by decide)
      · have hchars : ∀ c ∈ (if b then "true" else "false").toList, isScalarChar c = true :=
          List.all_eq_true.1 (by cases b <;> rfl)
        rw [value_append hchars (by cases b <;> nofun)]
        cases b <;> rfl
  | int n =>
      have hchars (c : Char) (hc : c ∈ (toString n).toList) : isScalarChar c = true := by
        rcases mem_toString hc with h | rfl
        · simp [isScalarChar, Char.isAlphanum, h]
        · decide
      have hne : (toString n).toList ≠ [] := by
        rw [toList_toString]
        split
        · exact Nat.toDigits_ne_nil
        · nofun
      refine ⟨_, rfl, fun rest => ?_, fun rest fuel => ?_⟩
      · obtain ⟨c, cs, hcs⟩ := List.exists_cons_of_ne_nil hne
        have hc : isScalarChar c = true := hchars c (by rw [hcs]; exact List.mem_cons_self)
        rw [hcs]
        exact stops_cons (isSpace_eq_false (ne_of_kind hc (by decide)) (ne_of_kind hc (by decide)))
      · rw [value_append hchars hne, scalar?_toString]
        rfl
  | text text =>
      refine ⟨_, rfl, fun rest => ?_, fun rest fuel => ?_⟩
      · rw [printText, String.toList_append, String.toList_append, List.append_assoc]
        exact stops_cons (by decide)
      · have hread := string_printText h rest
        rw [printText, String.toList_append, String.toList_append, List.append_assoc] at hread ⊢
        refine (congrArg (Option.map fun read => (Data.text (String.ofList read.1), read.2))
          hread).trans ?_
        simp
  | null | real | moment | list | table => exact absurd h id

end Uplink.Toml
