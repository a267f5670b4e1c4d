/-
A session of a node.

Each stream that a node accepts has a session of its own.  A session treats one frame after the
other, and a reply with a pause in it holds up the frames behind it.  It ends when its node stops,
when the node's behaviour says so, or when there is nothing more to come.

* `Uplink.Session` — how far a session has read;
* `Uplink.Session.next?` — the frame that it treats next;
* `Uplink.Session.turn?` — one step of a session on its stream, if there is one to take.
-/

import Uplink.Net.Stream
import Uplink.Node

set_option relaxedAutoImplicit false
set_option autoImplicit false

namespace Uplink

/-- How far the session of a stream has read. -/
structure Session where
  /-- The node. -/
  node : Nat
  /-- The stream. -/
  socket : Nat
  /-- Bytes that were taken and not yet understood. -/
  held : Bytes := []
  /-- The session pauses until an instant and sends some bytes then. -/
  pause : Option (Instant × Bytes) := none
  /-- The session goes on. -/
  isOpen : Bool := true
deriving DecidableEq, Repr

namespace Session

/-- The session takes bytes from its stream. -/
def take (s : Session) (bytes : Bytes) : Session := { s with held := s.held ++ bytes }

/-- The session treats the first frame that it holds completely, if there is one. -/
def next? (s : Session) (n : Node) : Option (Session × Node × Reply) :=
  (readFrame? s.held).map fun (payload, rest) =>
    let (n, reply) := n.receive payload
    ({ s with held := rest }, n, reply)

/-- The session ends and gives up its stream. -/
def stop (s : Session) (t : Stream) : Session × Stream := ({ s with isOpen := false }, t.close)

/-- The session replies to a frame. -/
def answer (s : Session) (t : Stream) (now : Instant) : Reply → Session × Stream
  | .send bytes => (s, t.reply bytes)
  | .sendSplit first pause second =>
      ({ s with pause := some (now.after pause, second) }, t.reply first)
  | .close => s.stop t

/-- The session takes what has arrived, or ends when nothing will. -/
def readOn? (s : Session) (t : Stream) : Option (Session × Stream) :=
  if t.sent ≠ [] then
    let (bytes, t) := t.take t.sent.length
    some (s.take bytes, t)
  else if t.isExhausted then some (s.stop t)
  else none

/-- One step of a session, if it can take one. -/
def turn? (s : Session) (n : Node) (t : Stream) (now : Instant) :
    Option (Session × Node × Stream) :=
  if !s.isOpen then none
  else
    match s.pause with
    | some (due, second) =>
        if now < due then none else some ({ s with pause := none }, n, t.reply second)
    | none =>
        if n.isStopping then some ((s.stop t).1, n, (s.stop t).2)
        else
          match s.next? n with
          | some (s, n, reply) => some ((s.answer t now reply).1, n, (s.answer t now reply).2)
          | none => (s.readOn? t).map fun (s, t) => (s, n, t)

end Session

end Uplink
