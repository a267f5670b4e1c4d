/-
A connection that talks with a node.

Every socket of the connection has a wire to the node.  The task, its users, the streams and the
sessions act in any order, and the node may change its ways at any time.

* `Uplink.Exchange`, `Uplink.ExchangeEvent`, `Uplink.Exchange.step` — everything together, what can
  happen, and its outcome; an event that is not possible changes nothing;
* `Uplink.Exchange.Reachable` — what runs lead to, whatever their events are.
-/

import Uplink.Proofs.Wire

set_option relaxedAutoImplicit false
set_option autoImplicit false

namespace Uplink

/-! ### The exchange -/

/-- A connection, its node and what is between them. -/
structure Exchange where
  /-- The connection among those who use it. -/
  scene : Scene
  /-- The node. -/
  node : Node
  /-- The wires, one for each socket there is or will be. -/
  wires : SocketId → Wire

/-- What can happen in an exchange. -/
inductive ExchangeEvent
  /-- A move that reads no bytes and keeps the rule for the end of a frame. -/
  | move (move : Move)
  /-- The task reads some bytes from its socket. -/
  | read (now : Instant) (count : Nat)
  /-- The session of a socket takes a step. -/
  | serve (socket : SocketId) (now : Instant)
  /-- The end of the connection at a socket that it has given up is closed. -/
  | hangUp (socket : SocketId)
  /-- The node changes its ways. -/
  | retune (behavior : Behavior) (answersProbes isStopping : Bool)

namespace Exchange

/-- The connection. -/
def connection (x : Exchange) : Connection := x.scene.connection

/-- The bytes that a socket was handed so far. -/
def handed (x : Exchange) (socket : SocketId) : Bytes :=
  (x.scene.shipped.filter (·.socket = socket)).flatMap (·.bytes)

/-- A wire changes. -/
def setWire (x : Exchange) (socket : SocketId) (wire : Wire) : Exchange :=
  { x with wires := fun other => if other = socket then wire else x.wires other }

/-- The task makes a turn. -/
def turn (x : Exchange) (now : Instant) (stimulus : Stimulus) : Exchange :=
  { x with
    scene := x.scene.turn now stimulus
    wires := fun socket =>
      (x.wires socket).follow x.connection (x.connection.turn now stimulus) socket }

/-- Bytes that are no more than the connection has room for are read from a socket. -/
def read (x : Exchange) (socket : SocketId) (now : Instant) (count : Nat) : Exchange :=
  let wire := x.wires socket
  match wire.stream.offer (min count x.connection.block.room) with
  | some (.bytes bytes) =>
      if bytes = [] then x
      else
        (x.setWire socket (wire.give bytes)).turn now (.received bytes)
  | _ => x

/-- A payload is exactly one frame that is not empty. -/
def accepts (payload : Bytes) : Bool :=
  match readFrame? payload with
  | some (frame, rest) => frame ≠ [] ∧ rest = []
  | none => false

/-- An event; one that is not possible changes nothing. -/
def step (x : Exchange) : ExchangeEvent → Exchange
  | .move (.turn _ (.received _)) | .move (.recode _) => x
  | .move (.turn now stimulus) =>
      if ∀ socket ∈ stimulus.sockets, socket ∉ x.scene.sockets then x.turn now stimulus else x
  | .move (.push w) =>
      if accepts w.payload then { x with scene := x.scene.step (.push w) } else x
  | .move move => { x with scene := x.scene.step move }
  | .read now count =>
      match x.connection.socket with
      | some socket => if x.connection.isReading then x.read socket now count else x
      | none => x
  | .serve socket now =>
      let (wire, node) := (x.wires socket).serve x.node now
      { x.setWire socket wire with node }
  | .hangUp socket =>
      if socket ∈ x.scene.sockets ∧ x.connection.line?.map (·.socket) ≠ some socket then
        let wire := x.wires socket
        x.setWire socket { wire with stream := wire.stream.hangUp }
      else x
  | .retune behavior answersProbes isStopping =>
      { x with node := { x.node with behavior, answersProbes, isStopping } }

/-- A sequence of events. -/
def run (x : Exchange) (events : List ExchangeEvent) : Exchange := events.foldl step x

/-- Frames that start with their length in four octets, with a probe or without one. -/
def format (maxFrame : Nat) (probe : Option Bytes) : FrameCodec :=
  ({ maxFrame, probe := probe.map frameOf } : LengthPrefixed).codec

/-- A fresh connection to a node. -/
def start (now : Instant) (endpoint : Endpoint) (config : Config) (maxFrame : Nat)
    (probe : Option Bytes) (name : Option String) (node : Node)
    (ends : SocketId → SocketAddress × SocketAddress) : Exchange where
  scene := .start now endpoint config (format maxFrame probe) name
  node
  wires socket := ⟨⟨(ends socket).1, (ends socket).2, true, [], [], none, true, true, false⟩,
    ⟨0, socket, [], none, true⟩, [], [], []⟩

/-- A run from a fresh connection leads to the exchange. -/
inductive Reachable : Exchange → Prop
  | start (now : Instant) (endpoint : Endpoint) (config : Config) (maxFrame : Nat)
      (probe : Option Bytes) (name : Option String) (node : Node)
      (ends : SocketId → SocketAddress × SocketAddress)
      (hp : ∀ payload ∈ probe, payload.length < 4294967296) :
      Reachable (start now endpoint config maxFrame probe name node ends)
  | step {x : Exchange} (h : Reachable x) (event : ExchangeEvent) : Reachable (x.step event)

theorem Reachable.run {x : Exchange} (h : x.Reachable) (events : List ExchangeEvent) :
    (x.run events).Reachable := by
  induction events generalizing x with
  | nil => exact h
  | cons event events ih => exact ih (h.step event)

end Exchange

end Uplink
