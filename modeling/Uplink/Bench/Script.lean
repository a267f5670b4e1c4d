/-
What can be done on a bench.

* `Uplink.Instruction` — one thing to do, with `Uplink.Target` and `Uplink.Draft` for its parts;
* `Uplink.Answer` — what is answered at once;
* `Uplink.Bench.perform` — does it.
-/

import Uplink.Bench.Schedule

set_option relaxedAutoImplicit false
set_option autoImplicit false

namespace Uplink

/-! ### Instructions and answers -/

/-- Which connection is meant. -/
inductive Target
  /-- One that is not in a pool, in the order of their creation. -/
  | single (index : Nat)
  /-- One that the pool knows under a handle, in the order in which handles were given out. -/
  | pooled (index : Nat)
deriving DecidableEq, Repr

/-- A write to be made. -/
structure Draft where
  /-- The name of its receipt. -/
  name : String
  /-- The bytes to transmit. -/
  payload : Bytes
  /-- Whether a response is expected; `none` follows the connection. -/
  expects : Option Bool := none
  /-- The receipt will be looked at in person. -/
  isManual : Bool := false
deriving DecidableEq, Repr

/-- One thing to do. -/
inductive Instruction
  /-- Something that could not be understood. -/
  | unreadable
  | startNode (behavior : Behavior) (answersProbes : Bool)
  | setNode (node : Nat) (behavior : Option Behavior) (answersProbes : Option Bool)
  | inspectNode (node : Nat)
  | stopNode (node : Nat)
  | dropNode (node : Nat)
  | listen (port : Port)
  | unlisten (number : Nat)
  | peerSend (peer : Option Nat) (bytes : Bytes)
  | peerReceive (peer : Option Nat) (count : Option Nat)
  | peerWindow (peer : Option Nat) (window : Option Nat)
  | peerClose (peer : Option Nat)
  | peerReset (peer : Option Nat)
  | refuseOptions (refusals : List (OptionName × OsError))
  | advance (span : Duration)
  | spawn (blueprint : Blueprint)
  | connect (target : Target)
  | write (target : Target) (draft : Draft)
  | close (target : Target)
  | shutdown (target : Target)
  | drop (target : Target)
  | summarize (target : Target)
  | endpoint (target : Target)
  | config (target : Target)
  | takePending (target : Target)
  | inspectStash (index : Nat)
  | dropStash (index : Nat)
  /-- Submits a write from the stash to a connection, or to the pool. -/
  | resubmit (index : Nat) (target : Option Target)
  | abandon (receipt : String)
  | poll (receipt : String)
  | awaitReceipt (receipt : String) (span : Duration)
  | openPool (config : Config)
  | poolAdd (endpoint : Endpoint)
  | poolGet (handle : Nat)
  | poolRemove (handle : Nat)
  | poolConnectAll
  | poolReconnect
  | poolReroute (handle : Nat)
  | poolSelect
  | poolSubmit (draft : Draft)
  | poolCloseAll

/-- Something that is not there. -/
inductive Absence
  | connection
  | peer
  | node
  | receipt
  | stashed
deriving DecidableEq, Repr

/-- What is shown of a write that was handed back. -/
structure WriteView where
  /-- The write. -/
  write : PendingWrite
  /-- Nobody waits for its outcome. -/
  isAbandoned : Bool
deriving DecidableEq, Repr

/-- What is answered at once. -/
inductive Answer
  | nothing
  | unreadable
  | absent (what : Absence)
  | failed (error : ConnectionError)
  | flag (value : Bool)
  | count (value : Nat)
  | text (value : String)
  | listening (address : SocketAddress)
  | node (node : Node)
  | received (bytes : Bytes) (isGone : Bool)
  | endpoint (endpoint : Endpoint)
  | config (config : Config)
  | writes (views : List WriteView)
  | stashed (view : Option WriteView)
  | outcome (outcome : Option Outcome)
  | unresolved
  | handle (handle : Option PoolHandle)

namespace Bench

/-! ### Connections -/

/-- The connection that is meant, if it is still there. -/
def find? (b : Bench) : Target → Option Nat
  | .single index => do
      let number ← b.singles[index]?
      let c ← b.fleet[number]?
      if c.isHeld then some number else none
  | .pooled index => do
      let h ← b.handles[index]?
      let pool ← b.pool
      pool.get? h

/-- A connection does something, and may be able to run after it. -/
def command (b : Bench) (number : Nat) (act : Connection → Progress) : Bench :=
  let (fleet, happenings) := b.fleet.step number act
  ({ b with fleet }.absorb happenings).wake (.connection number)

/-- Makes a connection that is not in a pool. -/
def enlist (b : Bench) (blueprint : Blueprint) : Bench × Answer :=
  match blueprint.build b.now with
  | .error fault => (b, .failed (.config fault))
  | .ok c =>
      let number := b.fleet.length
      let b := { b with fleet := b.fleet ++ [c], singles := b.singles ++ [number] }
      (b.wake (.connection number), .count (b.singles.length - 1))

/-- Something is done with the connection that is meant. -/
def withTarget (b : Bench) (target : Target) (f : Nat → Bench × Answer) : Bench × Answer :=
  match b.find? target with
  | some number => f number
  | none => (b, .absent .connection)

/-- Something is asked of the connection that is meant. -/
def ask (b : Bench) (target : Target) (f : Connection → Answer) : Bench × Answer :=
  b.withTarget target fun number => (b, ((b.fleet[number]?).map f).getD .nothing)

/-- Closes a connection, and waits for the end of that. -/
def closeAndWait (b : Bench) (number : Nat) : Bench :=
  let waiter := b.waiters
  let b := { b with waiters := waiter + 1 }.command number (·.close waiter)
  b.waitUntil (·.released.contains waiter) none rounds

/-! ### Writes -/

/-- A new write with its receipt. -/
def draftWrite (b : Bench) (d : Draft) : Bench × PendingWrite :=
  ({ b with submissions := b.submissions ++ [{ name := d.name, isManual := d.isManual }] },
   { ticket := b.submissions.length
     payload := d.payload
     expects := d.expects
     enqueuedAt := b.now })

/-- A write is given up. -/
def cancelWrite (b : Bench) (w : PendingWrite) : Bench :=
  b.resolve w.ticket (w.undelivered .cancelled)

/-- A write is submitted to the connection that is meant. -/
def submitTo (b : Bench) (target : Target) (w : PendingWrite) : Bench × Answer :=
  match b.find? target with
  | some number => (b.command number (·.write w), .nothing)
  | none => (b.cancelWrite w, .absent .connection)

/-- What is shown of a write. -/
def viewOf (b : Bench) (w : PendingWrite) : WriteView :=
  ⟨w, !(b.submissions[w.ticket]?).any (·.isHeld)⟩

/-- Writes that were handed back are kept. -/
def putAside (b : Bench) (writes : List PendingWrite) : Bench × Answer :=
  ({ b with stash := b.stash ++ writes.map some }, .writes (writes.map b.viewOf))

/-- Takes a write out of the stash. -/
def takeStashed (b : Bench) (index : Nat) : Option (PendingWrite × Bench) :=
  match b.stash[index]? with
  | some (some w) => some (w, { b with stash := b.stash.set index none })
  | _ => none

/-- The ticket of the first receipt with a name that was not thrown away. -/
def ticketOf? (b : Bench) (name : String) : Option Nat :=
  b.submissions.findIdx? fun s => s.isHeld ∧ s.name = name

/-- Looks at a receipt. -/
def pollReceipt (b : Bench) (ticket : Nat) : Option Outcome × Bench :=
  match b.submissions[ticket]? with
  | some s =>
      let (outcome, receipt) := s.receipt.poll
      (outcome, { b with submissions := b.submissions.set ticket { s with receipt } })
  | none => (none, b)

/-- Throws a receipt away. -/
def discard (b : Bench) (ticket : Nat) : Bench :=
  { b with submissions := b.submissions.modify ticket fun s => { s with isHeld := false } }

/-- A write has an outcome. -/
def isResolved (ticket : Nat) (b : Bench) : Bool :=
  (b.submissions[ticket]?).any fun s => s.receipt ≠ .unresolved

/-- Waits for the outcome of a write, and throws the receipt away. -/
def awaitOutcome (b : Bench) (ticket : Nat) (span : Duration) : Bench × Answer :=
  let b := b.waitUntil (isResolved ticket) (some (b.now.after span)) rounds
  match b.pollReceipt ticket with
  | (some outcome, b) => (b.discard ticket, .outcome (some outcome))
  | (none, b) => (b.discard ticket, .unresolved)

/-! ### Peers and nodes -/

/-- The open stream that is served by hand; the latest if none is named. -/
def peer? (b : Bench) (peer : Option Nat) : Option SocketId := do
  let socket ← match peer with
    | some index => b.peers[index]?
    | none => b.peers.getLast?
  let stream ← b.network.streams[socket]?
  if stream.serverOpen then some socket else none

/-- A stream that is served by hand changes, and the client may be able to run after it. -/
def servePeer (b : Bench) (peer : Option Nat) (f : Stream → Stream) : Bench × Answer :=
  match b.peer? peer with
  | some socket =>
      ({ b with network := b.network.onStream socket f }.wakeClient socket, .nothing)
  | none => (b, .absent .peer)

/-- Takes what has arrived on a stream that is served by hand. -/
def receivePeer (b : Bench) (peer : Option Nat) (count : Option Nat) : Bench × Answer :=
  match b.peer? peer with
  | some socket =>
      match b.network.streams[socket]? with
      | some stream =>
          let (bytes, rest) := stream.take (count.getD stream.sent.length)
          ({ b with network := b.network.onStream socket fun _ => rest }.wakeClient socket,
           .received bytes (!stream.clientOpen))
      | none => (b, .absent .peer)
  | none => (b, .absent .peer)

/-- The number of the first port that a node gets. -/
def firstNodePort : Nat := 9001

/-- Starts a node. -/
def startNode (b : Bench) (behavior : Behavior) (answersProbes : Bool) : Bench × Answer :=
  let number := b.nodes.length
  let port := firstNodePort + number
  ({ b with
     nodes := b.nodes ++ [{ port, behavior, answersProbes }]
     network := b.network.setPort { number := port, node := some number } },
   .listening ⟨.loopback, port⟩)

/-- Something is done with a node that its owner has not given up. -/
def withNode (b : Bench) (number : Nat) (f : Node → Bench × Answer) : Bench × Answer :=
  match b.nodes[number]? with
  | some n => if n.isDropped then (b, .absent .node) else f n
  | none => (b, .absent .node)

/-- A node has changed. -/
def setNode (b : Bench) (number : Nat) (n : Node) : Bench :=
  { b with nodes := b.nodes.set number n }

/-- A node and its sessions see that the node has to stop. -/
def wakeNode (b : Bench) (number : Nat) : Bench :=
  let sessions := (List.range b.sessions.length).filter fun k =>
    (b.sessions[k]?).any fun s => s.node = number
  (b.wake (.node number)).wakeAll (sessions.map .session)

/-! ### The pool -/

/-- The pool, or an empty one. -/
def poolOrEmpty (b : Bench) : Pool := b.pool.getD {}

/-- The tasks of the members, in the order of the slots. -/
def memberAgents (b : Bench) : List Agent := b.poolOrEmpty.entries.map fun e => .connection e.2

/-- Takes over what an operation on the pool has changed. -/
def afterPool (b : Bench) (pool : Pool) (fleet : Fleet) (happenings : List Happening) : Bench :=
  let b := { b with pool := b.pool.map fun _ => pool, fleet }.absorb happenings
  b.wakeAll b.memberAgents

/-- The owner of the pool gives it up, and so every connection in it. -/
def dropPool (b : Bench) : Bench :=
  let b := b.poolOrEmpty.entries.foldl (fun b e => b.command e.2 (·.letGo)) b
  { b with pool := none }

/-- Adds a connection to the pool. -/
def addToPool (b : Bench) (endpoint : Endpoint) : Bench × Answer :=
  match b.pool with
  | none => (b, .nothing)
  | some pool =>
      let (result, pool, fleet) := pool.add b.fleet b.now { endpoint, config := b.poolConfig }
      let b := { b with pool := some pool, fleet }.wake (.connection b.fleet.length)
      match result with
      | .ok h => ({ b with handles := b.handles ++ [h] }, .handle (some h))
      | .error fault => (b, .failed (.config fault))

/-- Something is done with the pool and one of its handles. -/
def withHandle (b : Bench) (handle : Nat) (f : PoolHandle → Bench × Answer) : Bench × Answer :=
  match b.handles[handle]? with
  | some h => f h
  | none => (b, .nothing)

/-- Submits a write to the pool. -/
def submitToPool (b : Bench) (w : PendingWrite) : Bench × Answer :=
  let (h, pool, fleet, happenings) := b.poolOrEmpty.submit b.fleet w
  (b.afterPool pool fleet happenings, .handle h)

/-- Takes a connection out of the pool and keeps the writes that waited there. -/
def removeFromPool (b : Bench) (h : PoolHandle) : Bench × Answer :=
  let leaving := (b.poolOrEmpty.get? h).toList.map Agent.connection
  let (waiting, pool, fleet, happenings) := b.poolOrEmpty.discharge b.fleet h
  ((b.afterPool pool fleet happenings).wakeAll leaving).putAside waiting

/-- Closes the connections in the pool one after the other and takes them out. -/
def closePool (b : Bench) : Bench :=
  let b := b.poolOrEmpty.entries.foldl
    (fun b e => (b.closeAndWait e.2).command e.2 (·.letGo)) b
  { b with pool := b.pool.map (·.clear) }

/-! ### Instructions -/

/-- Does one thing. -/
def perform (b : Bench) : Instruction → Bench × Answer
  | .unreadable => (b, .unreadable)
  | .startNode behavior answersProbes => b.startNode behavior answersProbes
  | .setNode number behavior answersProbes =>
      b.withNode number fun n =>
        (b.setNode number { n with
          behavior := behavior.getD n.behavior
          answersProbes := answersProbes.getD n.answersProbes }, .nothing)
  | .inspectNode number => b.withNode number fun n => (b, .node n)
  | .stopNode number =>
      b.withNode number fun n =>
        ((b.setNode number { n with isStopping := true }).wakeNode number, .nothing)
  | .dropNode number =>
      b.withNode number fun n =>
        ((b.setNode number { n with isStopping := true, isDropped := true }).wakeNode number,
         .nothing)
  | .listen port => ({ b with network := b.network.setPort port }, .nothing)
  | .unlisten number =>
      let b := { b with network := b.network.removePort number }
      (b.wakeAll ((List.range b.nodes.length).map .node), .nothing)
  | .peerSend peer bytes => b.servePeer peer (·.reply bytes)
  | .peerReceive peer count => b.receivePeer peer count
  | .peerWindow peer window => b.servePeer peer ({ · with window })
  | .peerClose peer => b.servePeer peer (·.close)
  | .peerReset peer => b.servePeer peer (·.reset)
  | .refuseOptions refusals => ({ b with refusals }, .nothing)
  | .advance span => (b.advance span, .nothing)
  | .spawn blueprint => b.enlist blueprint
  | .connect target =>
      b.withTarget target fun number => (b.command number (·.connect), .nothing)
  | .write target draft =>
      let (b, w) := b.draftWrite draft
      b.submitTo target w
  | .close target => b.withTarget target fun number => (b.closeAndWait number, .nothing)
  | .shutdown target =>
      b.withTarget target fun number => (b.command number (·.shutdown), .nothing)
  | .drop target =>
      match target with
      | .single index =>
          match b.singles[index]?, b.find? target with
          | some _, some number => (b.command number (·.letGo), .flag true)
          | some _, none => (b, .flag false)
          | none, _ => (b, .absent .connection)
      | .pooled _ => (b, .absent .connection)
  | .summarize target => b.ask target fun c => .text c.summary
  | .endpoint target => b.ask target fun c => .endpoint c.endpoint
  | .config target => b.ask target fun c => .config c.config
  | .takePending target =>
      b.withTarget target fun number =>
        match b.fleet[number]? with
        | some c =>
            let (writes, c) := c.takePending
            { b with fleet := b.fleet.set number c }.putAside writes
        | none => (b, .absent .connection)
  | .inspectStash index => (b, .stashed ((b.stash[index]?.join).map b.viewOf))
  | .dropStash index =>
      match b.takeStashed index with
      | some (w, b) => (b.cancelWrite w, .flag true)
      | none => (b, .flag false)
  | .resubmit index target =>
      match b.takeStashed index with
      | some (w, b) =>
          match target with
          | some target => b.submitTo target w
          | none => b.submitToPool w
      | none => (b, .absent .stashed)
  | .abandon receipt =>
      match b.ticketOf? receipt with
      | some ticket => (b.discard ticket, .nothing)
      | none => (b, .absent .receipt)
  | .poll receipt =>
      match b.ticketOf? receipt with
      | some ticket =>
          let (outcome, b) := b.pollReceipt ticket
          (b, .outcome outcome)
      | none => (b, .absent .receipt)
  | .awaitReceipt receipt span =>
      match b.ticketOf? receipt with
      | some ticket => b.awaitOutcome ticket span
      | none => (b, .absent .receipt)
  | .openPool config =>
      ({ b.dropPool with pool := some {}, poolConfig := config }, .nothing)
  | .poolAdd endpoint => b.addToPool endpoint
  | .poolGet handle =>
      (b, .flag ((b.handles[handle]?.bind b.poolOrEmpty.get?).isSome))
  | .poolRemove handle => b.withHandle handle b.removeFromPool
  | .poolConnectAll =>
      let (count, fleet, happenings) := b.poolOrEmpty.connectAll b.fleet
      (b.afterPool b.poolOrEmpty fleet happenings, .count count)
  | .poolReconnect =>
      let (count, fleet, happenings) := b.poolOrEmpty.reconnectFailed b.fleet b.now
      (b.afterPool b.poolOrEmpty fleet happenings, .count count)
  | .poolReroute handle =>
      b.withHandle handle fun h =>
        let (count, pool, fleet, happenings) := b.poolOrEmpty.reroute b.fleet h
        (b.afterPool pool fleet happenings, .count count)
  | .poolSelect =>
      let (h, pool) := b.poolOrEmpty.nextFree b.fleet
      ({ b with pool := b.pool.map fun _ => pool }, .handle h)
  | .poolSubmit draft =>
      let (b, w) := b.draftWrite draft
      b.submitToPool w
  | .poolCloseAll => (b.closePool, .nothing)

end Bench

end Uplink
