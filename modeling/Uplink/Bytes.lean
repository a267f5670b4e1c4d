/-
Byte strings and big-endian numbers.

Everything that travels over a stream is a `Bytes`, a plain list of octets.  A length header is a
number written with its most significant octet first.

* `Uplink.Bytes` — byte strings;
* `Uplink.bigEndian`, `Uplink.ofBigEndian` — the fixed-width big-endian form of a number and its
  reading;
* `Uplink.ofBigEndian_bigEndian` — **reading undoes writing** for every number that fits the width;
* `Uplink.bigEndian_ofBigEndian` — **writing undoes reading** for all octets.
-/

set_option relaxedAutoImplicit false
set_option autoImplicit false

namespace Uplink

/-- A byte string. -/
abbrev Bytes := List UInt8

/-- The number whose big-endian digits in base 256 are the given octets. -/
def ofBigEndian (octets : Bytes) : Nat :=
  octets.foldl (fun value octet => value * 256 + octet.toNat) 0

/-- The last `width` big-endian base-256 digits of a number. -/
def bigEndian : Nat → Nat → Bytes
  | 0, _ => []
  | width + 1, value => bigEndian width (value / 256) ++ [UInt8.ofNat (value % 256)]

/-- The octets of a text in UTF-8. -/
def utf8 (text : String) : Bytes :=
  text.toUTF8.toList

@[simp] theorem length_bigEndian (width value : Nat) : (bigEndian width value).length = width := by
  induction width generalizing value with
  | zero => rfl
  | succ width ih => simp [bigEndian, ih]

theorem ofBigEndian_append_singleton (octets : Bytes) (last : UInt8) :
    ofBigEndian (octets ++ [last]) = ofBigEndian octets * 256 + last.toNat := by
  simp [ofBigEndian, List.foldl_append]

/-- Reading undoes writing **for every number below `256` to the power of the width**. -/
theorem ofBigEndian_bigEndian (width value : Nat) (h : value < Nat.pow 256 width) :
    ofBigEndian (bigEndian width value) = value := by
  induction width generalizing value with
  | zero =>
      have : value < 1 := h
      have : value = 0 := by omega
      simp [this, bigEndian, ofBigEndian]
  | succ width ih =>
      have hs : Nat.pow 256 (width + 1) = Nat.pow 256 width * 256 := rfl
      have hq : value / 256 < Nat.pow 256 width := by omega
      rw [bigEndian, ofBigEndian_append_singleton, ih _ hq]
      simp
      omega

theorem ofBigEndian_lt (octets : Bytes) : ofBigEndian octets < Nat.pow 256 octets.length := by
  generalize hn : octets.length = n
  induction n generalizing octets with
  | zero =>
      rw [List.length_eq_zero_iff.1 hn]
      decide
  | succ n ih =>
      obtain rfl | ⟨octets, last, rfl⟩ := octets.eq_nil_or_concat
      · cases hn
      · have hlength : octets.length = n := by simpa using hn
        have hlt := ih octets hlength
        have hlast := last.toNat_lt
        have hs : Nat.pow 256 (n + 1) = Nat.pow 256 n * 256 := rfl
        rw [List.concat_eq_append, ofBigEndian_append_singleton]
        omega

/-- Writing undoes reading **for all octets**. -/
theorem bigEndian_ofBigEndian (octets : Bytes) :
    bigEndian octets.length (ofBigEndian octets) = octets := by
  generalize hn : octets.length = n
  induction n generalizing octets with
  | zero => rw [List.length_eq_zero_iff.1 hn, bigEndian]
  | succ n ih =>
      -- The last octet is the least significant one.
      obtain rfl | ⟨octets, last, rfl⟩ := octets.eq_nil_or_concat
      · cases hn
      · have hlength : octets.length = n := by simpa using hn
        have hlast := last.toNat_lt
        have hq : (ofBigEndian octets * 256 + last.toNat) / 256 = ofBigEndian octets := by omega
        have hr : (ofBigEndian octets * 256 + last.toNat) % 256 = last.toNat := by omega
        rw [List.concat_eq_append, ofBigEndian_append_singleton, bigEndian, hq, hr,
          ih octets hlength, UInt8.ofNat_toNat]

end Uplink
