/-
The grammar of the duration notation.

The notation reads a text from left to right: it cuts off the blanks at both ends, takes the digits
in front, and looks the rest up among the units.  A grammar says instead which texts there are.  The
two agree on every text: on those that mean a duration, on what they mean, and on what is wrong with
all others.

* `Uplink.Trimmed`, `Uplink.trimBlank_eq_iff` — a text without the blanks at its ends;
* `Uplink.TimeUnit.IsWritten`, `Uplink.TimeUnit.span` — how a unit is written, and how long a number
  of units is;
* `Uplink.Duration.Split` — the digits in front of a text, and what follows them;
* `Uplink.Duration.parse_eq_ok_iff` — **the texts that mean a duration**, and which one;
* `Uplink.Duration.parse_eq_error_iff` — **what is wrong with any other text**;
* `Uplink.Duration.chars_of_parse` — the characters of a text that means a duration.

Main result: `Uplink.Duration.parse_by_grammar`.
-/

import Mathlib.Algebra.Group.Nat.Defs
import Mathlib.Data.List.Basic
import Mathlib.Data.List.TakeWhile
import Uplink.Duration.Notation
import Uplink.Proofs.Toml.Reading

set_option relaxedAutoImplicit false
set_option autoImplicit false

namespace Uplink

open Toml

/-! ### Blanks at the ends -/

/-- The characters `core` are what is left of `cs` without the blanks at both ends. -/
structure Trimmed (cs core : List Char) : Prop where
  /-- Only blanks are missing. -/
  split : ∃ front back, cs = front ++ core ++ back ∧
    (∀ c ∈ front, isBlank c = true) ∧ ∀ c ∈ back, isBlank c = true
  /-- There is no blank in front. -/
  head : Stops isBlank core
  /-- There is no blank at the end. -/
  last : Stops isBlank core.reverse

theorem stops_dropWhile (p : Char → Bool) (cs : List Char) : Stops p (cs.dropWhile p) := by
  intro c hc
  have hhead := List.head?_dropWhile_not p cs
  rw [hc] at hhead
  exact hhead

theorem Trimmed.trimBlank_eq {cs core : List Char} (h : Trimmed cs core) :
    trimBlank cs = core := by
  obtain ⟨⟨front, back, rfl, hfront, hback⟩, hhead, hlast⟩ := h
  have hback' : ∀ c ∈ back.reverse, isBlank c = true := fun c hc =>
    hback c (List.mem_reverse.1 hc)
  rw [List.append_assoc]
  cases core with
  | nil =>
      have hall : (front ++ back).dropWhile isBlank = [] := by
        rw [List.dropWhile_append_of_pos hfront]
        exact List.dropWhile_eq_nil_iff.2 hback
      rw [trimBlank, List.nil_append, hall]
      rfl
  | cons c core =>
      have hdrop : (front ++ (c :: core ++ back)).dropWhile isBlank = c :: core ++ back :=
        dropWhile_append_stops hfront (stops_cons (hhead c rfl))
      rw [trimBlank, hdrop, List.reverse_append, dropWhile_append_stops hback' hlast,
        List.reverse_reverse]

/-- Trimming leaves what is between the blanks. -/
theorem trimmed_trimBlank (cs : List Char) : Trimmed cs (trimBlank cs) := by
  have hback : trimBlank cs ++ ((cs.dropWhile isBlank).reverse.takeWhile isBlank).reverse =
      cs.dropWhile isBlank := by
    rw [trimBlank, ← List.reverse_append, List.takeWhile_append_dropWhile, List.reverse_reverse]
  have hsplit : cs = cs.takeWhile isBlank ++ trimBlank cs ++
      ((cs.dropWhile isBlank).reverse.takeWhile isBlank).reverse := by
    rw [List.append_assoc, hback, List.takeWhile_append_dropWhile]
  refine ⟨⟨_, _, hsplit, fun c => List.mem_takeWhile_imp, fun c hc => ?_⟩, fun c hc => ?_, ?_⟩
  · exact List.mem_takeWhile_imp (List.mem_reverse.1 hc)
  · have hhead : c ∈ (cs.dropWhile isBlank).head? := by
      rw [← hback, List.head?_append, hc]
      rfl
    exact stops_dropWhile isBlank cs c hhead
  · rw [trimBlank, List.reverse_reverse]
    exact stops_dropWhile isBlank _

theorem trimBlank_eq_iff {cs core : List Char} : trimBlank cs = core ↔ Trimmed cs core :=
  ⟨fun h => h ▸ trimmed_trimBlank cs, Trimmed.trimBlank_eq⟩

/-- What is trimmed does not end in blanks. -/
theorem Trimmed.eq_nil {cs front back : List Char} (h : Trimmed cs (front ++ back))
    (hback : ∀ c ∈ back, isBlank c = true) : back = [] := by
  rcases back.eq_nil_or_concat' with rfl | ⟨init, last, rfl⟩
  · rfl
  · have hblank : isBlank last = true := hback last (by simp)
    have hlast : isBlank last = false := h.last last (by simp)
    rw [hblank] at hlast
    cases hlast

/-! ### Units -/

namespace TimeUnit

/-- The nanoseconds of a unit. -/
def size : TimeUnit → Nat
  | nanos => 1
  | micros => 10 ^ 3
  | millis => 10 ^ 6
  | secs => 10 ^ 9
  | mins => 60 * 10 ^ 9
  | hours => 3600 * 10 ^ 9

/-- The time of `count` units.  Minutes and hours stop at the largest 64-bit number of seconds. -/
def span (unit : TimeUnit) (count : Nat) : Duration :=
  match unit with
  | mins | hours => ⟨min (count * unit.size) ((2 ^ 64 - 1) * 10 ^ 9)⟩
  | _ => ⟨count * unit.size⟩

theorem toDuration_eq_span (unit : TimeUnit) (count : Nat) :
    unit.toDuration count = unit.span count := by
  cases unit <;>
    simp only [toDuration, span, size, Duration.ofNanos, Duration.ofMicros, Duration.ofMillis,
      Duration.ofSecs, Duration.nsPerSec, maxWord, Duration.mk.injEq] <;> omega

/-- A unit is written by its symbol; the second may be left out. -/
def IsWritten (unit : TimeUnit) (symbol : List Char) : Prop :=
  symbol = unit.symbol.toList ∨ symbol = [] ∧ unit = secs

theorem ofSymbol?_eq_some_iff {unit : TimeUnit} {symbol : List Char} :
    ofSymbol? (String.ofList symbol) = some unit ↔ unit.IsWritten symbol := by
  constructor
  · intro h
    have hread {text : String} (heq : String.ofList symbol = text) : symbol = text.toList := by
      rw [← heq, String.toList_ofList]
    unfold ofSymbol? at h
    split_ifs at h with hnanos hmicros hmillis hsecs hmins hhours <;> cases h
    · exact .inl (hread hnanos)
    · exact .inl (hread hmicros)
    · exact .inl (hread hmillis)
    · rcases hsecs with hempty | hsecs
      · exact .inr ⟨hread hempty, rfl⟩
      · exact .inl (hread hsecs)
    · exact .inl (hread hmins)
    · exact .inl (hread hhours)
  · rintro (rfl | ⟨rfl, rfl⟩)
    · rw [String.ofList_toList, ofSymbol?_symbol]
    · decide

/-- The letters that units are written with. -/
def letters : List Char := ['n', 'u', 'm', 's', 'h']

theorem IsWritten.mem_letters {unit : TimeUnit} {symbol : List Char} (h : unit.IsWritten symbol) :
    ∀ c ∈ symbol, c ∈ letters := by
  rcases h with rfl | ⟨rfl, -⟩
  · have hall : unit.symbol.toList.all (fun c => letters.contains c) = true := by
      cases unit <;> decide
    intro c hc
    exact List.contains_iff_mem.1 (List.all_eq_true.1 hall c hc)
  · nofun

/-- A letter is neither a blank nor a digit. -/
theorem of_mem_letters {c : Char} (h : c ∈ letters) : isBlank c = false ∧ c.isDigit = false := by
  have hall : letters.all (fun c => !isBlank c && !c.isDigit) = true := by decide
  simpa using List.all_eq_true.1 hall c h

end TimeUnit

theorem isDigit_of_isBlank {c : Char} (h : isBlank c = true) : c.isDigit = false := by
  refine eq_false_of_ne_true fun hdigit => ?_
  have hrange : 48 ≤ c.toNat ∧ c.toNat ≤ 57 := Char.isDigit_iff_toNat.1 hdigit
  simp only [isBlank, Bool.or_eq_true, Bool.and_eq_true, decide_eq_true_eq, beq_iff_eq] at h
  omega

/-! ### Texts -/

namespace Duration

variable {text : String} {digits rest : List Char}

/-- The text is digits and what follows them, between blanks. -/
structure Split (text : String) (digits rest : List Char) : Prop where
  /-- There are only blanks around the two. -/
  trimmed : Trimmed text.toList (digits ++ rest)
  /-- The first part consists of digits. -/
  digits : ∀ c ∈ digits, c.isDigit = true
  /-- The digits are all that are in front. -/
  rest : Stops Char.isDigit rest

theorem exists_split (text : String) : ∃ digits rest, Split text digits rest := by
  refine ⟨(trimBlank text.toList).takeWhile Char.isDigit,
    (trimBlank text.toList).dropWhile Char.isDigit, ?_, fun c => List.mem_takeWhile_imp,
    stops_dropWhile Char.isDigit _⟩
  rw [List.takeWhile_append_dropWhile]
  exact trimmed_trimBlank _

theorem Split.parse_eq (h : Split text digits rest) : parse text =
    if digits = [] ∨ 2 ^ 64 ≤ Nat.ofDigitChars 10 digits 0 then
      .error (.number (String.ofList (digits ++ rest)))
    else
      match TimeUnit.ofSymbol? (String.ofList (trimBlank rest)) with
      | some unit => .ok (unit.span (Nat.ofDigitChars 10 digits 0))
      | none =>
          .error (.unit (String.ofList (trimBlank rest)) (String.ofList (digits ++ rest))) := by
  have hword (n : Nat) : (maxWord < n) = (2 ^ 64 ≤ n) := by
    rw [maxWord, eq_iff_iff]
    omega
  cases hunit : TimeUnit.ofSymbol? (String.ofList (trimBlank rest)) <;>
    simp only [parse, h.trimmed.trimBlank_eq, takeWhile_append_stops h.digits h.rest,
      dropWhile_append_stops h.digits h.rest, hword, hunit, TimeUnit.toDuration_eq_span]

/-- **The texts that mean a duration**: digits of a 64-bit number and a unit, with blanks around and
between them. -/
theorem parse_eq_ok_iff {d : Duration} : parse text = .ok d ↔
    ∃ (digits gap symbol : List Char) (unit : TimeUnit),
      Trimmed text.toList (digits ++ (gap ++ symbol)) ∧
      digits ≠ [] ∧ (∀ c ∈ digits, c.isDigit = true) ∧ Nat.ofDigitChars 10 digits 0 < 2 ^ 64 ∧
      (∀ c ∈ gap, isBlank c = true) ∧ unit.IsWritten symbol ∧
      d = unit.span (Nat.ofDigitChars 10 digits 0) := by
  constructor
  · intro h
    obtain ⟨digits, rest, hsplit⟩ := exists_split text
    rw [hsplit.parse_eq] at h
    split at h
    next => cases h
    next hnumber =>
      rw [not_or, Nat.not_le] at hnumber
      split at h
      next unit hunit =>
        cases h
        obtain ⟨⟨gap, back, hrest, hgap, hback⟩, -, -⟩ := trimmed_trimBlank rest
        -- The blanks after the symbol are gone already.
        have hnil : back = [] := by
          have htrimmed := hsplit.trimmed
          rw [hrest, ← List.append_assoc] at htrimmed
          exact htrimmed.eq_nil hback
        rw [hnil, List.append_nil] at hrest
        refine ⟨digits, gap, trimBlank rest, unit, ?_, hnumber.1, hsplit.digits, hnumber.2, hgap,
          TimeUnit.ofSymbol?_eq_some_iff.1 hunit, rfl⟩
        rw [← hrest]
        exact hsplit.trimmed
      next => cases h
  · rintro ⟨digits, gap, symbol, unit, htrimmed, hne, hdigits, hlt, hgap, hunit, rfl⟩
    have hletters (c : Char) (hc : c ∈ symbol) := TimeUnit.of_mem_letters (hunit.mem_letters c hc)
    have hsplit : Split text digits (gap ++ symbol) := by
      refine ⟨htrimmed, hdigits, fun c hc => ?_⟩
      rcases List.mem_append.1 (List.mem_of_mem_head? hc) with hmem | hmem
      · exact isDigit_of_isBlank (hgap c hmem)
      · exact (hletters c hmem).2
    have hsymbol : trimBlank (gap ++ symbol) = symbol := by
      refine trimBlank_eq_iff.2 ⟨⟨gap, [], by simp, hgap, nofun⟩, fun c hc => ?_, fun c hc => ?_⟩
      · exact (hletters c (List.mem_of_mem_head? hc)).1
      · exact (hletters c (List.mem_reverse.1 (List.mem_of_mem_head? hc))).1
    rw [hsplit.parse_eq, if_neg (by rw [not_or, Nat.not_le]; exact ⟨hne, hlt⟩), hsymbol,
      TimeUnit.ofSymbol?_eq_some_iff.2 hunit]

/-- **What is wrong with any other text**: it does not start with digits of a 64-bit number, or what
follows them is no unit. -/
theorem parse_eq_error_iff {fault : NotationError} : parse text = .error fault ↔
    ∃ digits rest, Split text digits rest ∧
      ((digits = [] ∨ 2 ^ 64 ≤ Nat.ofDigitChars 10 digits 0) ∧
          fault = .number (String.ofList (digits ++ rest)) ∨
        digits ≠ [] ∧ Nat.ofDigitChars 10 digits 0 < 2 ^ 64 ∧ ∃ symbol, Trimmed rest symbol ∧
          (∀ unit : TimeUnit, ¬unit.IsWritten symbol) ∧
          fault = .unit (String.ofList symbol) (String.ofList (digits ++ rest))) := by
  constructor
  · intro h
    obtain ⟨digits, rest, hsplit⟩ := exists_split text
    refine ⟨digits, rest, hsplit, ?_⟩
    rw [hsplit.parse_eq] at h
    split at h
    next hnumber =>
      cases h
      exact .inl ⟨hnumber, rfl⟩
    next hnumber =>
      rw [not_or, Nat.not_le] at hnumber
      split at h
      next => cases h
      next hnone =>
        cases h
        refine .inr ⟨hnumber.1, hnumber.2, _, trimmed_trimBlank rest, fun unit hunit => ?_, rfl⟩
        rw [TimeUnit.ofSymbol?_eq_some_iff.2 hunit] at hnone
        cases hnone
  · rintro ⟨digits, rest, hsplit, ⟨hnumber, rfl⟩ | ⟨hne, hlt, symbol, htrimmed, hno, rfl⟩⟩
    · rw [hsplit.parse_eq, if_pos hnumber]
    · have hnone : TimeUnit.ofSymbol? (String.ofList symbol) = none := by
        refine Option.eq_none_iff_forall_ne_some.2 fun unit hunit => ?_
        exact hno unit (TimeUnit.ofSymbol?_eq_some_iff.1 hunit)
      rw [hsplit.parse_eq, if_neg (by rw [not_or, Nat.not_le]; exact ⟨hne, hlt⟩),
        htrimmed.trimBlank_eq, hnone]

/-- The characters of a text that means a duration are blanks, digits and the letters of units. -/
theorem chars_of_parse {d : Duration} (h : parse text = .ok d) :
    ∀ c ∈ text.toList, isBlank c = true ∨ c.isDigit = true ∨ c ∈ TimeUnit.letters := by
  obtain ⟨digits, gap, symbol, unit, ⟨⟨front, back, htext, hfront, hback⟩, -, -⟩, -, hdigits, -,
    hgap, hunit, -⟩ := parse_eq_ok_iff.1 h
  intro c hc
  simp only [htext, List.mem_append] at hc
  rcases hc with (hc | hc | hc | hc) | hc
  · exact .inl (hfront c hc)
  · exact .inr (.inl (hdigits c hc))
  · exact .inl (hgap c hc)
  · exact .inr (.inr (hunit.mem_letters c hc))
  · exact .inl (hback c hc)

/-- **The notation follows its grammar**, for every text.  It means a duration exactly when it is
one or more ASCII digits of a number below `2 ^ 64`, the symbol of a unit or none, and blanks, which
stand at the ends or between the two.  The duration is that many units, except that minutes and
hours stop at `2 ^ 64 - 1` seconds.  Otherwise the text does not start with such a number, or what
follows the number is no symbol; the message quotes the text without the blanks at its ends, and
what follows the number likewise.  No other character than blanks, ASCII digits and the letters of
the units stands in a text that means a duration: no sign, no point, no digit beyond ASCII, and no
upper-case letter. -/
theorem parse_by_grammar (text : String) :
    (∀ d, parse text = .ok d ↔ ∃ (digits gap symbol : List Char) (unit : TimeUnit),
      Trimmed text.toList (digits ++ (gap ++ symbol)) ∧
      digits ≠ [] ∧ (∀ c ∈ digits, c.isDigit = true) ∧ Nat.ofDigitChars 10 digits 0 < 2 ^ 64 ∧
      (∀ c ∈ gap, isBlank c = true) ∧ unit.IsWritten symbol ∧
      d = unit.span (Nat.ofDigitChars 10 digits 0)) ∧
    (∀ fault, parse text = .error fault ↔ ∃ digits rest, Split text digits rest ∧
      ((digits = [] ∨ 2 ^ 64 ≤ Nat.ofDigitChars 10 digits 0) ∧
          fault = .number (String.ofList (digits ++ rest)) ∨
        digits ≠ [] ∧ Nat.ofDigitChars 10 digits 0 < 2 ^ 64 ∧ ∃ symbol, Trimmed rest symbol ∧
          (∀ unit : TimeUnit, ¬unit.IsWritten symbol) ∧
          fault = .unit (String.ofList symbol) (String.ofList (digits ++ rest)))) ∧
    (∀ quoted, (NotationError.number quoted).message = "invalid duration `" ++ quoted ++ "`") ∧
    (∀ symbol quoted, (NotationError.unit symbol quoted).message =
      "unknown duration unit `" ++ symbol ++ "` in `" ++ quoted ++ "`") ∧
    (∀ c ∈ text.toList, isBlank c = false → c.isDigit = false → c ∉ TimeUnit.letters →
      ∃ fault, parse text = .error fault) := by
  refine ⟨fun d => parse_eq_ok_iff, fun fault => parse_eq_error_iff, fun quoted => rfl,
    fun symbol quoted => rfl, fun c hc hblank hdigit hletter => ?_⟩
  cases hparse : parse text with
  | error fault => exact ⟨fault, rfl⟩
  | ok d =>
      rcases chars_of_parse hparse c hc with h | h | h
      · rw [hblank] at h
        cases h
      · rw [hdigit] at h
        cases h
      · exact absurd h hletter

/-- A sign, a point, a digit that is not ASCII, and a unit in upper case. -/
theorem parse_by_grammar_rejected :
    ('+' ∈ "+5s".toList ∧ ∃ fault, parse "+5s" = .error fault) ∧
      ('.' ∈ "1.5s".toList ∧ ∃ fault, parse "1.5s" = .error fault) ∧
      ('٣' ∈ "٣s".toList ∧ ∃ fault, parse "٣s" = .error fault) ∧
      ('S' ∈ " 5 S ".toList ∧ ∃ fault, parse " 5 S " = .error fault) := by
  have hsign : '+' ∈ "+5s".toList := by decide
  have hpoint : '.' ∈ "1.5s".toList := by decide
  have hdigit : '٣' ∈ "٣s".toList := by decide
  have hupper : 'S' ∈ " 5 S ".toList := by decide
  refine ⟨⟨hsign, ?_⟩, ⟨hpoint, ?_⟩, ⟨hdigit, ?_⟩, ⟨hupper, ?_⟩⟩
  · exact (parse_by_grammar "+5s").2.2.2.2 '+' hsign (by decide) (by decide) (by decide)
  · exact (parse_by_grammar "1.5s").2.2.2.2 '.' hpoint (by decide) (by decide) (by decide)
  · exact (parse_by_grammar "٣s").2.2.2.2 '٣' hdigit (by decide) (by decide) (by decide)
  · exact (parse_by_grammar " 5 S ").2.2.2.2 'S' hupper (by decide) (by decide) (by decide)

end Duration

end Uplink
