/-
Frames that start with their length.

The header is a big-endian number of two or four octets.  It counts the payload alone or, in the
inclusive form, the whole frame.  Frames above a ceiling are neither written nor accepted.

* `Uplink.LengthPrefixed` — the parameters of the format;
* `Uplink.LengthPrefixed.encode` — the frame of a payload;
* `Uplink.LengthPrefixed.check` — the verdict on received bytes;
* `Uplink.LengthPrefixed.codec` — both as a `FrameCodec`.
-/

import Uplink.Frame

set_option relaxedAutoImplicit false
set_option autoImplicit false

namespace Uplink

/-- The width of a length header. -/
inductive HeaderWidth
  | two
  | four
deriving DecidableEq, Repr

/-- The octets of a header. -/
def HeaderWidth.octets : HeaderWidth → Nat
  | two => 2
  | four => 4

/-- The first number that a header cannot hold. -/
def HeaderWidth.bound : HeaderWidth → Nat
  | two => 65536
  | four => 4294967296

/-- Frames that start with a length header. -/
structure LengthPrefixed where
  /-- The width of the header. -/
  width : HeaderWidth := .four
  /-- The header counts itself. -/
  inclusive : Bool := false
  /-- The longest frame, header included. -/
  maxFrame : Nat := 4 * 1024 * 1024
  /-- The keep-alive probe. -/
  probe : Option Bytes := none
deriving DecidableEq, Repr

namespace LengthPrefixed

/-- The number that stands in the header of a payload of `length` bytes. -/
def declared (f : LengthPrefixed) (length : Nat) : Nat :=
  if f.inclusive then length + f.width.octets else length

/-- The frame of a payload; refused above the ceiling or when the length does not fit the header. -/
def encode (f : LengthPrefixed) (payload : Bytes) : Except ProtocolFault Bytes :=
  let length := payload.length
  let total := length + f.width.octets
  if f.maxFrame < total then
    .error (.frame (.tooLong total f.maxFrame))
  else if f.width.bound ≤ f.declared length then
    .error (.lengthTooWide (f.declared length) f.width.octets)
  else
    .ok (bigEndian f.width.octets (f.declared length) ++ payload)

/-- The length of the frame that received bytes start with, once its header is complete. -/
def frameLength? (f : LengthPrefixed) (received : Bytes) : Option Nat :=
  let header := received.take f.width.octets
  if header.length < f.width.octets then none
  else if f.inclusive then some (ofBigEndian header)
  else some (ofBigEndian header + f.width.octets)

/-- The verdict on received bytes. -/
def check (f : LengthPrefixed) (received : Bytes) : Verdict :=
  match f.frameLength? received with
  | none => .incomplete
  | some total =>
      if total < f.width.octets then .malformed (.shorterThanHeader total)
      else if f.maxFrame < total then .malformed (.tooLong total f.maxFrame)
      else if received.length < total then .incomplete
      else .complete total

/-- The format as a rule for the end of a frame. -/
def codec (f : LengthPrefixed) : FrameCodec := ⟨f.check, f.probe⟩

end LengthPrefixed

end Uplink
