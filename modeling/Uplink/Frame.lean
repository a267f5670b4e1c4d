/-
Where responses end.

A connection does not know the format of the responses it reads.  It asks a `FrameCodec` whether the
bytes received so far are a complete frame, and takes the keep-alive probe from it, if there is one.

* `Uplink.Verdict` — the answer on the bytes received so far;
* `Uplink.FrameCodec` — a rule for the end of a frame, and the probe;
* `Uplink.FrameCodec.line`, `Uplink.FrameCodec.overrun`, `Uplink.FrameCodec.never` — three small
  rules: frames ended by a line feed, frames that always claim one byte too many, and frames that
  never end.
-/

import Uplink.Error

set_option relaxedAutoImplicit false
set_option autoImplicit false

namespace Uplink

/-- What the bytes received so far are. -/
inductive Verdict
  /-- The first `length` bytes are a complete frame. -/
  | complete (length : Nat)
  /-- More bytes are needed. -/
  | incomplete
  /-- The bytes can never be a frame. -/
  | malformed (fault : FrameFault)
deriving DecidableEq, Repr

/-- A rule for the end of a frame. -/
structure FrameCodec where
  /-- The verdict on the bytes received so far. -/
  check : Bytes → Verdict
  /-- The frame that asks an idle peer for a sign of life. -/
  probe : Option Bytes

namespace FrameCodec

/-- The octet of a line feed. -/
def lineFeed : UInt8 := 10

/-- Frames end with their first line feed; `!` in front makes a frame malformed. -/
def line : FrameCodec where
  check received :=
    match received with
    | 33 :: _ => .malformed (.described "bang")
    | _ =>
        match received.idxOf? lineFeed with
        | some i => .complete (i + 1)
        | none => .incomplete
  probe := some [63, lineFeed]

/-- Every byte string is a frame that is one byte longer than it is. -/
def overrun : FrameCodec where
  check received := .complete (received.length + 1)
  probe := none

/-- No byte string is a frame. -/
def never : FrameCodec where
  check _ := .incomplete
  probe := none

end FrameCodec

end Uplink
