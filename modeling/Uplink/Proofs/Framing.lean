/-
Writing a frame and finding its end.

A frame is a header, which tells a length, and a payload.  Whoever writes frames has the payload and
makes the header from it; whoever reads has bytes and takes the header from them.  Both bound the
frame, by the ceiling and by what the header can hold.  The two agree: what is written is found
again, not before its last byte, and what is found could have been written.

* `Uplink.LengthPrefixed.header` — the header of a payload of some length;
* `Uplink.LengthPrefixed.encode_eq_ok_iff` — the payloads that have a frame, and their frames;
* `Uplink.LengthPrefixed.check_eq_complete_iff`, `Uplink.LengthPrefixed.check_eq_incomplete_iff` —
  where bytes stand, by the length of the frame that they start with;
* `Uplink.LengthPrefixed.encode_check_inverse` — **reading undoes writing, and writing undoes
  reading**.
-/

import Mathlib.Algebra.Group.Nat.Defs
import Uplink.Frame.LengthPrefixed

set_option relaxedAutoImplicit false
set_option autoImplicit false

namespace Uplink

/-- A header holds the numbers that its octets can express. -/
theorem HeaderWidth.bound_eq (width : HeaderWidth) : width.bound = Nat.pow 256 width.octets := by
  cases width <;> rfl

namespace LengthPrefixed

variable {f : LengthPrefixed} {payload frame buffer : Bytes} {length n : Nat}

/-! ### Headers -/

/-- The header of a payload of `length` bytes. -/
def header (f : LengthPrefixed) (length : Nat) : Bytes :=
  bigEndian f.width.octets (f.declared length)

@[simp] theorem length_header (f : LengthPrefixed) (length : Nat) :
    (f.header length).length = f.width.octets := length_bigEndian _ _

/-- A header that holds its number tells the length of the frame. -/
theorem frameLength?_header (h : f.declared length < f.width.bound) (rest : Bytes) :
    f.frameLength? (f.header length ++ rest) = some (length + f.width.octets) := by
  have htake : (f.header length ++ rest).take f.width.octets = f.header length :=
    List.take_left' (length_header f length)
  have hread : ofBigEndian (f.header length) = f.declared length :=
    ofBigEndian_bigEndian _ _ (f.width.bound_eq ▸ h)
  simp only [frameLength?, htake, hread, length_header, Nat.lt_irrefl, if_false, declared]
  split <;> rfl

/-- Bytes tell a length as soon as they hold a header. -/
theorem frameLength?_eq_none_iff :
    f.frameLength? buffer = none ↔ buffer.length < f.width.octets := by
  have hlength : (buffer.take f.width.octets).length < f.width.octets ↔
      buffer.length < f.width.octets := by
    rw [List.length_take]
    omega
  unfold frameLength?
  simp only [hlength]
  split
  next h => simp [h]
  next h => split <;> simp [h]

/-- The header that bytes start with is the one of the payload that they tell. -/
theorem take_of_frameLength? (h : f.frameLength? buffer = some n) (hn : f.width.octets ≤ n) :
    buffer.take f.width.octets = f.header (n - f.width.octets) ∧
      f.declared (n - f.width.octets) < f.width.bound := by
  have hheader : (buffer.take f.width.octets).length = f.width.octets := by
    have hlong : ¬buffer.length < f.width.octets := fun hshort => by
      rw [frameLength?_eq_none_iff.2 hshort] at h
      cases h
    rw [List.length_take]
    omega
  have hlt := ofBigEndian_lt (buffer.take f.width.octets)
  have hwrite := bigEndian_ofBigEndian (buffer.take f.width.octets)
  rw [hheader] at hlt hwrite
  -- The number in front is the one that the frame of `n` bytes declares, in either convention.
  have hdeclared : f.declared (n - f.width.octets) =
      ofBigEndian (buffer.take f.width.octets) := by
    simp only [frameLength?, hheader, Nat.lt_irrefl, if_false] at h
    unfold declared
    split at h <;> rename_i hinclusive <;> cases h <;> simp only [hinclusive, if_true]
    · omega
    · simp
  refine ⟨?_, ?_⟩
  · rw [header, hdeclared, hwrite]
  · rw [hdeclared, f.width.bound_eq]
    exact hlt

/-! ### Writing and reading -/

/-- A payload has a frame when the ceiling and the header allow it, and the frame is its header
followed by the payload. -/
theorem encode_eq_ok_iff : f.encode payload = .ok frame ↔
    (f.width.octets + payload.length ≤ f.maxFrame ∧
      f.declared payload.length < f.width.bound) ∧
    frame = f.header payload.length ++ payload := by
  unfold encode
  simp only
  split
  next h =>
    refine ⟨nofun, fun hok => ?_⟩
    omega
  next h =>
    split
    next h' =>
      refine ⟨nofun, fun hok => ?_⟩
      omega
    next h' =>
      rw [Except.ok.injEq, eq_comm, and_iff_right ⟨by omega, by omega⟩]
      rfl

/-- Bytes that tell a length that is allowed are a frame once there are enough of them. -/
theorem check_of_allowed (h : f.frameLength? buffer = some n)
    (hn : f.width.octets ≤ n ∧ n ≤ f.maxFrame) :
    f.check buffer = if buffer.length < n then .incomplete else .complete n := by
  simp only [check, h, Nat.not_lt.2 hn.1, Nat.not_lt.2 hn.2, if_false]

/-- Bytes that tell another length never become a frame. -/
theorem check_of_not_allowed (h : f.frameLength? buffer = some n)
    (hn : ¬(f.width.octets ≤ n ∧ n ≤ f.maxFrame)) : ∃ fault, f.check buffer = .malformed fault := by
  simp only [check, h]
  split
  next => exact ⟨_, rfl⟩
  next hheader =>
    rw [if_pos (by omega)]
    exact ⟨_, rfl⟩

/-- Bytes start with a frame when they have all of it and its length is allowed. -/
theorem check_eq_complete_iff : f.check buffer = .complete n ↔
    f.frameLength? buffer = some n ∧ f.width.octets ≤ n ∧ n ≤ f.maxFrame ∧
      n ≤ buffer.length := by
  cases h : f.frameLength? buffer with
  | none => simp [check, h]
  | some total =>
      rw [Option.some.injEq]
      by_cases hn : f.width.octets ≤ total ∧ total ≤ f.maxFrame
      · rw [check_of_allowed h hn]
        split
        · simp only [reduceCtorEq, false_iff]
          omega
        · simp only [Verdict.complete.injEq]
          omega
      · obtain ⟨fault, hfault⟩ := check_of_not_allowed h hn
        simp only [hfault, reduceCtorEq, false_iff]
        omega

/-- More bytes are needed as long as the header or the frame that it tells is not all there. -/
theorem check_eq_incomplete_iff : f.check buffer = .incomplete ↔
    buffer.length < f.width.octets ∨ ∃ n, f.frameLength? buffer = some n ∧
      f.width.octets ≤ n ∧ n ≤ f.maxFrame ∧ buffer.length < n := by
  rw [← frameLength?_eq_none_iff]
  cases h : f.frameLength? buffer with
  | none => simp [check, h]
  | some total =>
      simp only [reduceCtorEq, false_or, Option.some.injEq, exists_eq_left']
      by_cases hn : f.width.octets ≤ total ∧ total ≤ f.maxFrame
      · rw [check_of_allowed h hn]
        split
        next hpart => simp [hn, hpart]
        next hpart => simp [hpart]
      · obtain ⟨fault, hfault⟩ := check_of_not_allowed h hn
        simp only [hfault, reduceCtorEq, false_iff]
        omega

/-! ### The two together -/

/-- A frame is found as a whole. -/
theorem check_of_encode (h : f.encode payload = .ok frame) :
    f.check frame = .complete frame.length := by
  obtain ⟨⟨hceiling, hbound⟩, rfl⟩ := encode_eq_ok_iff.1 h
  rw [check_eq_complete_iff, frameLength?_header hbound, List.length_append, length_header]
  exact ⟨by rw [Nat.add_comm], by omega, hceiling, Nat.le_refl _⟩

/-- No frame is found before its last byte. -/
theorem check_of_prefix {part : Bytes} (h : f.encode payload = .ok frame) (hpart : part <+: frame)
    (hne : part ≠ frame) : f.check part = .incomplete := by
  obtain ⟨⟨hceiling, hbound⟩, rfl⟩ := encode_eq_ok_iff.1 h
  have hshort : part.length < f.width.octets + payload.length := by
    have hlt := Nat.lt_of_le_of_ne hpart.length_le fun heq => hne (hpart.eq_of_length heq)
    simpa using hlt
  rw [check_eq_incomplete_iff]
  by_cases hheader : part.length < f.width.octets
  · exact .inl hheader
  · -- The part has the whole header, so that it tells the length of the frame.
    obtain ⟨rest, rfl⟩ : f.header payload.length <+: part :=
      List.prefix_of_prefix_length_le (List.prefix_append _ _) hpart (by simpa using hheader)
    exact .inr ⟨_, frameLength?_header hbound rest, by omega, by omega, by omega⟩

/-- What is found could have been written. -/
theorem encode_of_check (h : f.check buffer = .complete n) :
    f.encode ((buffer.take n).drop f.width.octets) = .ok (buffer.take n) := by
  obtain ⟨hlength, hheader, hceiling, hle⟩ := check_eq_complete_iff.1 h
  obtain ⟨htake, hbound⟩ := take_of_frameLength? hlength hheader
  have hpayload : ((buffer.take n).drop f.width.octets).length = n - f.width.octets := by
    rw [List.length_drop, List.length_take, Nat.min_eq_left hle]
  rw [encode_eq_ok_iff, hpayload, ← htake]
  refine ⟨⟨by omega, hbound⟩, ?_⟩
  calc buffer.take n
      = (buffer.take n).take f.width.octets ++ (buffer.take n).drop f.width.octets :=
        (List.take_append_drop _ _).symm
    _ = buffer.take f.width.octets ++ (buffer.take n).drop f.width.octets := by
        rw [List.take_take, Nat.min_eq_left hheader]

/-- **Reading undoes writing, and writing undoes reading.**  A payload has a frame exactly when the
frame is not above the ceiling and the length that it declares fits the header.  The frame is the
header in big-endian order and the payload; it is found as a whole, and not before its last byte.
Bytes in which a frame is found have all of it, it is not above the ceiling, and it is what its
payload is written as. -/
theorem encode_check_inverse (f : LengthPrefixed) :
    (∀ payload : Bytes, (∃ frame, f.encode payload = .ok frame) ↔
      f.width.octets + payload.length ≤ f.maxFrame ∧
        (if f.inclusive then f.width.octets + payload.length else payload.length) <
          256 ^ f.width.octets) ∧
    (∀ payload frame : Bytes, f.encode payload = .ok frame →
      frame = bigEndian f.width.octets
          (if f.inclusive then f.width.octets + payload.length else payload.length) ++ payload ∧
        f.check frame = .complete frame.length ∧
        ∀ part, part <+: frame → part ≠ frame → f.check part = .incomplete) ∧
    (∀ (buffer : Bytes) (n : Nat), f.check buffer = .complete n →
      f.width.octets ≤ n ∧ n ≤ min buffer.length f.maxFrame ∧
        f.encode ((buffer.take n).drop f.width.octets) = .ok (buffer.take n)) := by
  have hdeclared (length : Nat) : f.declared length =
      if f.inclusive then f.width.octets + length else length := by
    rw [declared, Nat.add_comm]
  refine ⟨fun payload => ?_, fun payload frame h => ⟨?_, check_of_encode h, fun part =>
    check_of_prefix h⟩, fun buffer n h => ?_⟩
  · have hbound : f.width.bound = 256 ^ f.width.octets := f.width.bound_eq
    rw [← hdeclared, ← hbound]
    simp only [encode_eq_ok_iff, exists_and_left, exists_eq, and_true]
  · rw [← hdeclared]
    exact (encode_eq_ok_iff.1 h).2
  · obtain ⟨-, hheader, hceiling, hle⟩ := check_eq_complete_iff.1 h
    exact ⟨hheader, Nat.le_min.2 ⟨hle, hceiling⟩, encode_of_check h⟩

/-- Frames of at most five bytes, with a header of two octets that counts itself. -/
def short : LengthPrefixed := { width := .two, inclusive := true, maxFrame := 5 }

theorem encode_check_inverse_short :
    short.encode [7, 8, 9] = .ok [0, 5, 7, 8, 9] ∧ short.check [0, 5, 7, 8, 9] = .complete 5 ∧
      short.check [0, 5, 7, 8] = .incomplete ∧ short.check [0, 5, 7, 8, 9, 1] = .complete 5 ∧
      short.encode (([0, 5, 7, 8, 9, 1].take 5).drop 2) = .ok ([0, 5, 7, 8, 9, 1].take 5) ∧
      ¬∃ frame, short.encode [7, 8, 9, 1] = .ok frame := by
  obtain ⟨hiff, hwrite, hread⟩ := encode_check_inverse short
  have hok : short.encode [7, 8, 9] = .ok [0, 5, 7, 8, 9] := by cbv
  obtain ⟨-, hcheck, hpart⟩ := hwrite [7, 8, 9] [0, 5, 7, 8, 9] hok
  exact ⟨hok, hcheck, hpart [0, 5, 7, 8] (by decide) (by decide), by decide,
    (hread [0, 5, 7, 8, 9, 1] 5 (by decide)).2.2, fun h => absurd ((hiff _).1 h).1 (by decide)⟩

end LengthPrefixed

end Uplink
