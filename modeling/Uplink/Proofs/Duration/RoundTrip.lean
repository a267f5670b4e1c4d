/-
Writing a duration and reading it back.

A duration is written as a number of the coarsest unit that divides it.  The number need not fit 64
bits, and the notation only reads numbers that do; so some durations are written in a form that is
refused.  None of those can have been read: a number of any unit is written as the same number or a
smaller one.

* `Uplink.Duration.formatCount_mul_size` — the number that is written counts the unit exactly;
* `Uplink.Duration.formatCount_le` — **no number of units that makes up the duration is smaller**;
* `Uplink.Duration.parse_format`, `Uplink.Duration.parse_format_of_le` — what the written form of a
  duration means;
* `Uplink.Duration.formatCount_span_lt` — **a number that can be read is written as one that can be
  read**.

Main result: `Uplink.Duration.format_canonical`.
-/

import Uplink.Config.Document
import Uplink.Proofs.Duration.Grammar

set_option relaxedAutoImplicit false
set_option autoImplicit false

namespace Uplink

open Toml

namespace Duration

variable {d : Duration} {unit : TimeUnit} {count : Nat}

/-! ### The number that is written -/

/-- The number that is written counts the unit exactly. -/
theorem formatCount_mul_size (d : Duration) :
    d.formatCount d.formatUnit * d.formatUnit.size = d.ns := by
  unfold formatUnit
  split_ifs <;>
    simp only [formatCount, TimeUnit.size, micros, millis, secs, nsPerSec] at * <;> omega

/-- **No number of units that makes up the duration is smaller** than the one that is written. -/
theorem formatCount_le (h : d.ns = count * unit.size) : d.formatCount d.formatUnit ≤ count := by
  unfold formatUnit
  cases unit <;> split_ifs <;>
    simp only [formatCount, TimeUnit.size, micros, millis, secs, nsPerSec] at * <;> omega

/-! ### The time of a number of units -/

theorem fits_span (unit : TimeUnit) (h : count < 2 ^ 64) : (unit.span count).Fits := by
  cases unit <;> simp only [TimeUnit.span, TimeUnit.size, Fits, limit, maxWord, nsPerSec] <;> omega

/-- A time within the range is never cut. -/
theorem span_of_lt (h : count * unit.size < limit) : unit.span count = ⟨count * unit.size⟩ := by
  cases unit with
  | mins | hours =>
      simp only [TimeUnit.span, TimeUnit.size, Duration.mk.injEq, limit, maxWord, nsPerSec] at h ⊢
      omega
  | _ => rfl

/-- A time that is cut is one in seconds. -/
theorem span_cases (unit : TimeUnit) (count : Nat) :
    (unit.span count).ns = count * unit.size ∨
      (unit.span count).ns = (2 ^ 64 - 1) * TimeUnit.secs.size := by
  cases unit with
  | mins | hours =>
      simp only [TimeUnit.span, TimeUnit.size]
      omega
  | _ => exact .inl rfl

/-- **A number that can be read is written as one that can be read.** -/
theorem formatCount_span_lt (unit : TimeUnit) (h : count < 2 ^ 64) :
    (unit.span count).formatCount (unit.span count).formatUnit < 2 ^ 64 := by
  rcases span_cases unit count with hns | hns
  · exact Nat.lt_of_le_of_lt (formatCount_le hns) h
  · exact Nat.lt_of_le_of_lt (formatCount_le hns) (by decide)

/-- What is written is the duration. -/
theorem span_formatCount (h : d.Fits) : d.formatUnit.span (d.formatCount d.formatUnit) = d := by
  have hns := d.formatCount_mul_size
  rw [span_of_lt (by rw [hns]; exact h), hns]

/-! ### The written form -/

theorem toList_format (d : Duration) : d.format.toList =
    Nat.toDigits 10 (d.formatCount d.formatUnit) ++ d.formatUnit.symbol.toList := by
  rw [format, String.toList_append, Nat.toString_eq_repr, Nat.toList_repr]

/-- The written form is digits and a symbol, without blanks. -/
theorem split_format (d : Duration) : Split d.format
    (Nat.toDigits 10 (d.formatCount d.formatUnit)) d.formatUnit.symbol.toList := by
  have hletter (c : Char) (hc : c ∈ d.formatUnit.symbol.toList) :
      isBlank c = false ∧ c.isDigit = false :=
    TimeUnit.of_mem_letters (TimeUnit.IsWritten.mem_letters (.inl rfl) c hc)
  have hblank (c : Char) (hc : c ∈ Nat.toDigits 10 (d.formatCount d.formatUnit) ++
      d.formatUnit.symbol.toList) : isBlank c = false := by
    rcases List.mem_append.1 hc with hc | hc
    · refine eq_false_of_ne_true fun h => ?_
      have hdigit := isDigit_of_mem hc
      rw [isDigit_of_isBlank h] at hdigit
      cases hdigit
    · exact (hletter c hc).1
  refine ⟨⟨⟨[], [], ?_, nofun, nofun⟩, fun c hc => ?_, fun c hc => ?_⟩, fun c => isDigit_of_mem,
    fun c hc => ?_⟩
  · rw [toList_format, List.nil_append, List.append_nil]
  · exact hblank c (List.mem_of_mem_head? hc)
  · exact hblank c (List.mem_reverse.1 (List.mem_of_mem_head? hc))
  · exact (hletter c (List.mem_of_mem_head? hc)).2

/-- The written form is read as the duration, if the number fits. -/
theorem parse_format (h : d.Fits) (hlt : d.formatCount d.formatUnit < 2 ^ 64) :
    parse d.format = .ok d := by
  have hsplit := d.split_format
  refine parse_eq_ok_iff.2 ⟨_, [], _, d.formatUnit, hsplit.trimmed, Nat.toDigits_ne_nil,
    hsplit.digits, ?_, nofun, .inl rfl, ?_⟩
  · rw [Nat.ofDigitChars_ten_toDigits]
    exact hlt
  · rw [Nat.ofDigitChars_ten_toDigits, span_formatCount h]

/-- The written form is refused, if the number does not fit. -/
theorem parse_format_of_le (hle : 2 ^ 64 ≤ d.formatCount d.formatUnit) :
    parse d.format = .error (.number d.format) := by
  have hquoted : String.ofList (Nat.toDigits 10 (d.formatCount d.formatUnit) ++
      d.formatUnit.symbol.toList) = d.format := by
    rw [← toList_format, String.ofList_toList]
  refine parse_eq_error_iff.2 ⟨_, _, d.split_format, .inl ⟨.inr ?_, ?_⟩⟩
  · rw [Nat.ofDigitChars_ten_toDigits]
    exact hle
  · rw [hquoted]

/-! ### Durations that were read -/

/-- A duration that was read is a 64-bit number of some unit. -/
theorem exists_span_of_duration {data : Data} (h : data.duration = .ok d) :
    ∃ (unit : TimeUnit) (count : Nat), count < 2 ^ 64 ∧ d = unit.span count := by
  unfold Data.duration at h
  split at h
  next n =>
    split at h
    next hn =>
      cases h
      refine ⟨.secs, n.toNat, ?_, rfl⟩
      have hle : n.toNat ≤ maxWord := hn.2
      rw [maxWord] at hle
      omega
    next => cases h
  next text =>
    cases hparse : parse text with
    | error fault => simp [hparse] at h
    | ok e =>
        simp only [hparse, Except.ok.injEq] at h
        obtain ⟨digits, -, -, unit, -, -, -, hlt, -, -, he⟩ := parse_eq_ok_iff.1 hparse
        exact ⟨unit, _, hlt, h ▸ he⟩
  next => cases h

/-- A setting that may be absent has the same values as one that may not. -/
theorem duration_of_optional {data : Data} (h : data.optional Data.duration = .ok (some d)) :
    data.duration = .ok d := by
  unfold Data.optional at h
  split at h
  next => cases h
  next =>
    cases hd : data.duration with
    | error fault => simp [hd, Except.map] at h
    | ok e =>
        simp only [hd, Except.map, Except.ok.injEq, Option.some.injEq] at h
        rw [h]

/-- **The written form of a duration is canonical.**  Any duration within the range is written as a
number and the symbol of a unit; it is read back if the number fits 64 bits, and refused as invalid
otherwise.  Every duration that was read from a setting, be it a number of seconds or a text, cut or
not, is within the range and written with a number that fits; so it is read back, and written in
the same form again. -/
theorem format_canonical :
    (∀ d : Duration, d.Fits →
      d.format = toString (d.formatCount d.formatUnit) ++ d.formatUnit.symbol ∧
      (d.formatCount d.formatUnit < 2 ^ 64 → parse d.format = .ok d) ∧
      (2 ^ 64 ≤ d.formatCount d.formatUnit → ∃ fault, parse d.format = .error fault ∧
        fault.message = "invalid duration `" ++ d.format ++ "`")) ∧
    (∀ (data : Data) (d : Duration),
      data.duration = .ok d ∨ data.optional Data.duration = .ok (some d) →
        d.Fits ∧ d.formatCount d.formatUnit < 2 ^ 64 ∧ parse d.format = .ok d ∧
          (parse d.format).map format = .ok d.format) := by
  refine ⟨fun d h => ⟨rfl, parse_format h, fun hle => ⟨_, parse_format_of_le hle, rfl⟩⟩,
    fun data d hread => ?_⟩
  obtain ⟨unit, count, hcount, rfl⟩ :=
    exists_span_of_duration (hread.elim id duration_of_optional)
  have hfits := fits_span unit hcount
  have hlt := formatCount_span_lt unit hcount
  have hparse := parse_format hfits hlt
  exact ⟨hfits, hlt, hparse, by rw [hparse, Except.map]⟩

/-- Ninety seconds, the longest time within the range, and a number of minutes that is cut. -/
theorem format_canonical_samples :
    (ofSecs 90).Fits ∧ parse (ofSecs 90).format = .ok (ofSecs 90) ∧
      (Duration.mk (limit - 1)).Fits ∧ (∃ fault, parse (Duration.mk (limit - 1)).format =
        .error fault ∧ fault.message = "invalid duration `18446744073709551615999999999ns`") ∧
      (Data.text "307445734561825861m").duration = .ok (ofSecs maxWord) ∧
      parse (ofSecs maxWord).format = .ok (ofSecs maxWord) := by
  obtain ⟨hwrite, hread⟩ := format_canonical
  have hcut : (Data.text "307445734561825861m").duration = .ok (ofSecs maxWord) := by decide
  exact ⟨by decide, (hwrite (ofSecs 90) (by decide)).2.1 (by decide), by decide,
    (hwrite ⟨limit - 1⟩ (by decide)).2.2 (by decide), hcut, (hread _ _ (.inl hcut)).2.2.1⟩

end Duration

end Uplink
