/-
A byte stream between a client and a server.

What one side sends, the other side can take at once, in order.  A window bounds how many bytes of
the client may wait to be taken; without one the client never waits.  A server that has closed takes
every byte and keeps none, and a reset stream takes and gives none.

* `Uplink.Stream` — the stream;
* `Uplink.Stream.acceptance` — how many bytes of the client are taken now;
* `Uplink.Stream.offer` — what the client can read now;
* `Uplink.Stream.send`, `Uplink.Stream.consume`, `Uplink.Stream.hangUp` — the client's side;
* `Uplink.Stream.take`, `Uplink.Stream.reply`, `Uplink.Stream.close`, `Uplink.Stream.reset` — the
  server's side.
-/

import Uplink.Bytes
import Uplink.Net.Address
import Uplink.OsError

set_option relaxedAutoImplicit false
set_option autoImplicit false

namespace Uplink

/-- A byte stream between a client and a server. -/
structure Stream where
  /-- The address of the client. -/
  near : SocketAddress
  /-- The address of the server. -/
  far : SocketAddress
  /-- The addresses can be told. -/
  isNamed : Bool := true
  /-- Bytes of the client that the server has not taken. -/
  sent : Bytes := []
  /-- Bytes of the server that the client has not read. -/
  replied : Bytes := []
  /-- How many bytes of the client may wait. -/
  window : Option Nat := none
  /-- The client has not given up its end. -/
  clientOpen : Bool := true
  /-- The server has not given up its end. -/
  serverOpen : Bool := true
  /-- The server has cut the stream off. -/
  wasReset : Bool := false
deriving DecidableEq, Repr

/-- What a client can read. -/
inductive Offer
  /-- Some bytes. -/
  | bytes (bytes : Bytes)
  /-- The end of the stream. -/
  | ended
  /-- A failure. -/
  | failed (error : OsError)
deriving DecidableEq, Repr

namespace Stream

/-- The addresses of both ends, if they can be told. -/
def ends (s : Stream) : Option (SocketAddress × SocketAddress) :=
  if s.isNamed then some (s.near, s.far) else none

/-! ### The client's side -/

/-- How many of `count` bytes are taken now; `none` when the client has to wait. -/
def acceptance (s : Stream) (count : Nat) : Option (Except OsError Nat) :=
  if s.wasReset then some (.error .brokenPipe)
  else if !s.serverOpen then some (.ok count)
  else
    match s.window with
    | none => some (.ok count)
    | some window =>
        let fits := min count (window - s.sent.length)
        if fits = 0 then none else some (.ok fits)

/-- The client hands over bytes. -/
def send (s : Stream) (bytes : Bytes) : Stream :=
  if s.serverOpen then { s with sent := s.sent ++ bytes } else s

/-- What the client can read now, in at most `room` bytes; `none` when it has to wait. -/
def offer (s : Stream) (room : Nat) : Option Offer :=
  if s.wasReset then some (.failed .connectionReset)
  else if s.replied ≠ [] then some (.bytes (s.replied.take room))
  else if !s.serverOpen then some .ended
  else none

/-- What a client can read comes first in what the server has handed over. -/
theorem bytes_of_offer {s : Stream} {room : Nat} {bytes : Bytes}
    (h : s.offer room = some (.bytes bytes)) : bytes = s.replied.take room := by
  unfold offer at h
  split at h
  · cases h
  split at h
  · cases h
    rfl
  split at h <;> cases h

theorem offer_bytes_length_le {s : Stream} {room : Nat} {bytes : Bytes}
    (h : s.offer room = some (.bytes bytes)) : bytes.length ≤ room := by
  rw [bytes_of_offer h]
  exact List.length_take_le _ _

/-- The client has read some bytes. -/
def consume (s : Stream) (count : Nat) : Stream := { s with replied := s.replied.drop count }

/-- The client gives up its end. -/
def hangUp (s : Stream) : Stream := { s with clientOpen := false }

/-! ### The server's side -/

/-- The server takes at most `count` bytes. -/
def take (s : Stream) (count : Nat) : Bytes × Stream :=
  (s.sent.take count, { s with sent := s.sent.drop count })

/-- The server has taken everything there will ever be. -/
def isExhausted (s : Stream) : Bool := s.sent = [] ∧ !s.clientOpen

/-- The server hands over bytes; they are lost on a client that has gone. -/
def reply (s : Stream) (bytes : Bytes) : Stream :=
  if s.clientOpen then { s with replied := s.replied ++ bytes } else s

/-- The server gives up its end. -/
def close (s : Stream) : Stream := { s with serverOpen := false, sent := [] }

/-- The server cuts the stream off, and still holds its end. -/
def reset (s : Stream) : Stream := { s with wasReset := true }

end Stream

end Uplink
