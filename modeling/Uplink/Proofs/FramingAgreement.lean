/-
Both ends of a wire see the same frames.

A client checks the bytes it has against a ceiling and tells where a frame ends; a node reads a
header, and then as many bytes as the header tells, without a ceiling.  A client whose format has no
settings of its own writes what the node would write.  It finds the frames that the node reads, as
long as they are not above the ceiling, and both wait as long as such a frame is not all there.

* `Uplink.LengthPrefixed.encode_default` — what the client writes is what the node writes;
* `Uplink.readFrame?_eq_none_iff` — when the node waits for more bytes;
* `Uplink.LengthPrefixed.check_default_eq_complete_iff`,
  `Uplink.LengthPrefixed.check_default_eq_incomplete_iff` — the client's verdict, by what the node
  does with the same bytes;
* `Uplink.LengthPrefixed.framings_agree` — **both ends see the same frames up to the ceiling**.
-/

import Uplink.Node
import Uplink.Proofs.Framing

set_option relaxedAutoImplicit false
set_option autoImplicit false

namespace Uplink

variable {bytes payload rest : Bytes} {n : Nat}

/-! ### The node -/

@[simp] theorem length_frameOf (payload : Bytes) :
    (frameOf payload).length = payload.length + 4 := by
  rw [frameOf, List.length_append, length_bigEndian, Nat.add_comm]

/-- The node waits until the header and the body that it tells are all there. -/
theorem readFrame?_eq_none_iff : readFrame? bytes = none ↔
    bytes.length < 4 ∨ bytes.length < ofBigEndian (bytes.take 4) + 4 := by
  have hheader : (bytes.take 4).length < 4 ↔ bytes.length < 4 := by
    rw [List.length_take]
    omega
  unfold readFrame?
  simp only [hheader, List.length_drop]
  split
  next hshort => simp only [hshort, true_or]
  next hlong =>
    split
    next hbody =>
      simp only [true_iff]
      omega
    next hbody =>
      simp only [reduceCtorEq, false_iff]
      omega

/-- What the node reads is a piece of the bytes, behind four octets of a header. -/
theorem parts_of_readFrame? (hread : readFrame? bytes = some (payload, rest))
    (hlength : bytes.length = n + rest.length) :
    n = payload.length + 4 ∧ payload = (bytes.take n).drop 4 ∧ rest = bytes.drop n := by
  obtain ⟨-, rfl⟩ := readFrame?_eq_some_iff.1 hread
  obtain rfl : n = (frameOf payload).length := by
    rw [List.length_append] at hlength
    omega
  refine ⟨length_frameOf payload, ?_, List.drop_left.symm⟩
  rw [List.take_left, frameOf, List.drop_left' (length_bigEndian _ _)]

/-! ### The client -/

namespace LengthPrefixed

/-- What the client writes is what the node writes. -/
theorem encode_default (h : payload.length + 4 ≤ 4 * 1024 * 1024) :
    ({} : LengthPrefixed).encode payload = .ok (frameOf payload) := by
  have hceiling : ({} : LengthPrefixed).width.octets + payload.length ≤
      ({} : LengthPrefixed).maxFrame := by
    rw [Nat.add_comm]
    exact h
  have hbound : ({} : LengthPrefixed).declared payload.length <
      ({} : LengthPrefixed).width.bound := by
    change payload.length < 4294967296
    omega
  exact encode_eq_ok_iff.2 ⟨⟨hceiling, hbound⟩, rfl⟩

/-- The header that the client looks at is the node's. -/
theorem frameLength?_default (h : ¬bytes.length < 4) :
    ({} : LengthPrefixed).frameLength? bytes = some (ofBigEndian (bytes.take 4) + 4) := by
  have hheader : ¬(bytes.take 4).length < 4 := by
    rw [List.length_take]
    omega
  change (if (bytes.take 4).length < 4 then none else some (ofBigEndian (bytes.take 4) + 4)) = _
  rw [if_neg hheader]

/-- The client finds a frame where the node reads one that is not above the ceiling. -/
theorem check_default_eq_complete_iff : ({} : LengthPrefixed).check bytes = .complete n ↔
    n ≤ 4 * 1024 * 1024 ∧
      ∃ payload rest, readFrame? bytes = some (payload, rest) ∧ bytes.length = n + rest.length := by
  constructor
  · intro hcheck
    obtain ⟨-, -, hceiling, hle⟩ := check_eq_complete_iff.1 hcheck
    -- The client would write what it has found, and the node would write the same.
    have hwrite := encode_of_check hcheck
    generalize hp : (bytes.take n).drop ({} : LengthPrefixed).width.octets = payload at hwrite
    have hpayload : payload.length + 4 ≤ 4 * 1024 * 1024 := by
      obtain ⟨⟨hle', -⟩, -⟩ := encode_eq_ok_iff.1 hwrite
      rw [Nat.add_comm]
      exact hle'
    have hframe : bytes.take n = frameOf payload := by
      rw [encode_default hpayload] at hwrite
      exact (Except.ok.inj hwrite).symm
    refine ⟨hceiling, payload, bytes.drop n, ?_, ?_⟩
    · rw [readFrame?_eq_some_iff, ← hframe, List.take_append_drop]
      exact ⟨by omega, rfl⟩
    · rw [List.length_drop]
      omega
  · rintro ⟨hceiling, payload, rest, hread, hlength⟩
    obtain ⟨hn, -, -⟩ := parts_of_readFrame? hread hlength
    obtain ⟨hpayload, rfl⟩ := readFrame?_eq_some_iff.1 hread
    have htells : ({} : LengthPrefixed).frameLength? (frameOf payload ++ rest) = some n := by
      rw [hn, frameOf, List.append_assoc]
      exact frameLength?_header (f := {}) hpayload (payload ++ rest)
    refine check_eq_complete_iff.2 ⟨htells, ?_, hceiling, by omega⟩
    change 4 ≤ n
    omega

/-- The client waits where the node does, unless it knows already that the frame is above the
ceiling. -/
theorem check_default_eq_incomplete_iff : ({} : LengthPrefixed).check bytes = .incomplete ↔
    readFrame? bytes = none ∧
      (bytes.length < 4 ∨ ofBigEndian (bytes.take 4) + 4 ≤ 4 * 1024 * 1024) := by
  rw [check_eq_incomplete_iff, readFrame?_eq_none_iff]
  change (bytes.length < 4 ∨ ∃ n, ({} : LengthPrefixed).frameLength? bytes = some n ∧
    4 ≤ n ∧ n ≤ 4 * 1024 * 1024 ∧ bytes.length < n) ↔ _
  by_cases hshort : bytes.length < 4
  · simp only [hshort, true_or, and_self]
  · simp only [hshort, false_or, frameLength?_default hshort, Option.some.injEq, exists_eq_left',
      Nat.le_add_left, true_and]
    exact And.comm

/-- **Both ends see the same frames up to the ceiling.**  What a client without settings of its own
writes is what the node writes.  It finds a frame of `n` bytes exactly when the node, given the same
bytes, reads a frame and uses up `n` of them, and `n` is not above the ceiling; the payload is what
stands behind the header.  It waits exactly when the node does and no header tells a frame above the
ceiling.  A probe is an empty frame of four bytes to both. -/
theorem framings_agree :
    (∀ payload : Bytes, payload.length + 4 ≤ 4 * 1024 * 1024 →
      ({} : LengthPrefixed).encode payload = .ok (frameOf payload)) ∧
    (∀ (bytes : Bytes) (n : Nat), ({} : LengthPrefixed).check bytes = .complete n ↔
      n ≤ 4 * 1024 * 1024 ∧ ∃ payload rest,
        readFrame? bytes = some (payload, rest) ∧ bytes.length = n + rest.length) ∧
    (∀ (bytes payload rest : Bytes) (n : Nat), readFrame? bytes = some (payload, rest) →
      bytes.length = n + rest.length →
        payload = (bytes.take n).drop 4 ∧ rest = bytes.drop n) ∧
    (∀ bytes : Bytes, ({} : LengthPrefixed).check bytes = .incomplete ↔
      readFrame? bytes = none ∧
        (bytes.length < 4 ∨ ofBigEndian (bytes.take 4) + 4 ≤ 4 * 1024 * 1024)) ∧
    (frameOf []).length = 4 ∧
    (∀ rest : Bytes, ({} : LengthPrefixed).check (frameOf [] ++ rest) = .complete 4 ∧
      readFrame? (frameOf [] ++ rest) = some ([], rest)) := by
  refine ⟨fun payload => encode_default, fun bytes n => check_default_eq_complete_iff,
    fun bytes payload rest n hread hlength => (parts_of_readFrame? hread hlength).2,
    fun bytes => check_default_eq_incomplete_iff, length_frameOf [], fun rest => ?_⟩
  have hread : readFrame? (frameOf [] ++ rest) = some ([], rest) :=
    readFrame?_frameOf [] rest (by decide)
  refine ⟨check_default_eq_complete_iff.2 ⟨by decide, [], rest, hread, ?_⟩, hread⟩
  rw [List.length_append, length_frameOf, List.length_nil, Nat.zero_add]

/-- A frame of two bytes with a byte behind it, and a header that tells a frame above the ceiling:
the client refuses the latter, for which the node waits. -/
theorem framings_agree_ceiling :
    ({} : LengthPrefixed).encode [7, 8] = .ok (frameOf [7, 8]) ∧
    ({} : LengthPrefixed).check [0, 0, 0, 2, 7, 8, 9] = .complete 6 ∧
    readFrame? [0, 64, 0, 0, 7] = none ∧
    ¬({} : LengthPrefixed).check [0, 64, 0, 0, 7] = .incomplete := by
  obtain ⟨hwrite, hfind, -, hwait, -, -⟩ := framings_agree
  refine ⟨hwrite [7, 8] (by decide), (hfind _ 6).2 ⟨by decide, [7, 8], [9], by decide, by decide⟩,
    by decide, fun h => ?_⟩
  exact absurd ((hwait _).1 h).2 (by decide)

end LengthPrefixed

end Uplink
