/-
A bench on which connections run.

The bench holds a clock that stands still unless it is moved, a network, nodes, connections with a
pool, and the receipts of the writes that were submitted.  Everything that can run is an agent;
agents that have something to do wait in a line and run in that order.

* `Uplink.Submission`, `Uplink.Journal` — a receipt with its name, and what happened lately;
* `Uplink.Agent` — what can run;
* `Uplink.Bench` — the bench;
* `Uplink.Bench.stimulus?`, `Uplink.Bench.isReady` — what an agent can do at this moment;
* `Uplink.Bench.wake` — puts an agent into the line if it has something to do;
* `Uplink.Bench.absorb` — effects of connections change the bench.
-/

import Uplink.Connection.Task
import Uplink.Net.Network
import Uplink.Pool.Traffic
import Uplink.Session

set_option relaxedAutoImplicit false
set_option autoImplicit false

namespace Uplink

/-- The receipt of a write that was submitted. -/
structure Submission where
  /-- The name given by the submitter. -/
  name : String
  /-- The submitter looks at the receipt in person. -/
  isManual : Bool
  /-- The receipt. -/
  receipt : Receipt := .unresolved
  /-- The receipt was not thrown away. -/
  isHeld : Bool := true
deriving DecidableEq, Repr

/-- What happened since the last report. -/
structure Journal where
  /-- Changes of status. -/
  moves : List (Status × Status × Event) := []
  /-- Lines for the log. -/
  notices : List Notice := []
  /-- Options that were set, or refused. -/
  settings : List OptionSetting := []

/-- What can run. -/
inductive Agent
  /-- The task of a connection. -/
  | connection (number : Nat)
  /-- A node that accepts streams. -/
  | node (number : Nat)
  /-- The session of a stream. -/
  | session (number : Nat)
deriving DecidableEq, Repr

/-- The bench. -/
structure Bench where
  /-- The clock. -/
  now : Instant := .start
  /-- The network. -/
  network : Network := {}
  /-- The options that sockets refuse. -/
  refusals : List (OptionName × OsError) := []
  /-- The connections, in the order of their creation. -/
  fleet : Fleet := []
  /-- The connects on their way. -/
  dials : List (Nat × Dial) := []
  /-- The connections that are not in a pool. -/
  singles : List Nat := []
  /-- The pool. -/
  pool : Option Pool := none
  /-- The settings of connections in the pool. -/
  poolConfig : Config := {}
  /-- The handles that pools gave out. -/
  handles : List PoolHandle := []
  /-- The nodes. -/
  nodes : List Node := []
  /-- Their sessions. -/
  sessions : List Session := []
  /-- The streams that are served by hand. -/
  peers : List SocketId := []
  /-- Streams that will be served by hand. -/
  arrivals : List SocketId := []
  /-- The submissions, by ticket. -/
  submissions : List Submission := []
  /-- Writes that were handed back; `none` for one that was used again. -/
  stash : List (Option PendingWrite) := []
  /-- The agents that have something to do. -/
  line : List Agent := []
  /-- The waiters that need not wait any more. -/
  released : List Waiter := []
  /-- The number of waiters so far. -/
  waiters : Nat := 0
  /-- What happened since the last report. -/
  journal : Journal := {}

namespace Bench

/-! ### What an agent can do -/

/-- How a connect goes on at this moment. -/
def dialProgress (b : Bench) (number : Nat) (c : Connection) : Option (Bench × Stimulus) :=
  match b.dials.lookup number with
  | some (.failed fault) => some (b, .dialFailed fault)
  | some (.delayed due ip port) =>
      if b.now < due then none
      else
        match b.network.join c.endpoint ip port with
        | .error fault => some (b, .dialFailed fault)
        | .ok (socket, network) =>
            -- The stream exists from now on, whether or not the task goes on to use it.
            let ends := (network.streams[socket]?).bind (·.ends)
            some ({ b with network }, .dialled ⟨socket, ends, b.refusals⟩)
  | some .unanswered | none => none

/-- What the socket of a connection does with bytes to send; without any it is not asked. -/
def sendProgress (b : Bench) (c : Connection) (unsent : Bytes) : Option Stimulus := do
  let socket ← c.socket
  let stream ← b.network.streams[socket]?
  if unsent = [] then some (.accepted 0)
  else
    match ← stream.acceptance unsent.length with
    | .ok count => some (.accepted count)
    | .error error => some (.writeFailed error)

/-- What the socket of a connection has to read; without room it is not asked. -/
def readProgress (b : Bench) (c : Connection) : Option (Bench × Stimulus) := do
  let socket ← c.socket
  let stream ← b.network.streams[socket]?
  if c.block.room = 0 then some (b, .overfull)
  else
  match ← stream.offer c.block.room with
  | .bytes bytes =>
      some ({ b with network := b.network.onStream socket (·.consume bytes.length) },
        .received bytes)
  | .ended => some (b, .ended)
  | .failed error => some (b, .readFailed error)

/-- What the socket of a connection that waits in a phase does. -/
def socketStimulus? (b : Bench) (number : Nat) (c : Connection) :
    Phase → Option (Bench × Stimulus)
  | .idle => none
  | .connecting _ => b.dialProgress number c
  | .free => if c.keepAlive.isProbing then b.readProgress c else none
  | .probing _ unsent _ _ | .writing unsent => (b.sendProgress c unsent).map (b, ·)
  | .waiting => b.readProgress c

/-- The timers that count in a phase, and what each brings. -/
def timers (c : Connection) : Phase → List (Instant × Stimulus)
  | .idle => []
  | .connecting _ => c.deadline.due?.toList.map (·, .deadline)
  | .free => [(c.keepAlive.due, .tick)]
  | .probing _ _ _ expiry => [(expiry, .probeExpired)]
  | .writing _ | .waiting =>
      c.deadline.due?.toList.map (·, Stimulus.deadline) ++ [(c.keepAlive.due, .tick)]

/-- Commands are read in a phase. -/
def readsCommands : Phase → Bool
  | .probing _ _ _ _ => false
  | _ => true

/-- What can happen to a connection that waits in a phase: the socket first, then the timers, and
the commands last. -/
def stimulus? (b : Bench) (number : Nat) (c : Connection) (phase : Phase) :
    Option (Bench × Stimulus) :=
  match b.socketStimulus? number c phase with
  | some found => some found
  | none =>
      match (timers c phase).find? fun t => t.1 ≤ b.now with
      | some (_, stimulus) => some (b, stimulus)
      | none =>
          if readsCommands phase ∧ (c.inbox ≠ [] ∨ !c.isHeld) then some (b, .command) else none

/-- A connection can run. -/
def isConnectionReady (b : Bench) (number : Nat) : Bool :=
  match b.fleet[number]? with
  | some c =>
      match c.position with
      | .spawned | .entering | .signalled _ | .overflowed => true
      | .parked phase => (b.stimulus? number c phase).isSome
      | .finished | .crashed => false
  | none => false

/-- A node has a stream to accept, or has to stop. -/
def isNodeReady (b : Bench) (number : Nat) : Bool :=
  match b.nodes[number]? with
  | some n =>
      n.isAccepting ∧
        (n.isStopping ∨ n.backlog ≠ [] ∨
          (b.network.port? n.port).bind (·.node) ≠ some number)
  | none => false

/-- A session that pauses goes on when the time has come; any other when its node stops, when a
frame is complete, or when there is something to take or nothing to come. -/
def canContinue (b : Bench) (s : Session) : Bool :=
  match s.pause with
  | some (due, _) => due ≤ b.now
  | none =>
      (b.nodes[s.node]?).any (·.isStopping) || (readFrame? s.held).isSome ||
        (b.network.streams[s.socket]?).any fun t => t.sent ≠ [] ∨ t.isExhausted

/-- A session has something to do. -/
def isSessionReady (b : Bench) (number : Nat) : Bool :=
  (b.sessions[number]?).any fun s => s.isOpen && b.canContinue s

/-- An agent can run. -/
def isReady (b : Bench) : Agent → Bool
  | .connection number => b.isConnectionReady number
  | .node number => b.isNodeReady number
  | .session number => b.isSessionReady number

/-- Puts an agent into the line, if it can run and does not stand there already. -/
def wake (b : Bench) (agent : Agent) : Bench :=
  if !b.line.contains agent ∧ b.isReady agent then { b with line := b.line ++ [agent] } else b

/-- Puts agents into the line in order. -/
def wakeAll (b : Bench) (agents : List Agent) : Bench := agents.foldl wake b

/-- Every agent. -/
def agents (b : Bench) : List Agent :=
  (List.range b.fleet.length).map .connection ++ (List.range b.nodes.length).map .node ++
    (List.range b.sessions.length).map .session

/-- The connection that holds a socket. -/
def clientOf? (b : Bench) (socket : SocketId) : Option Nat :=
  b.fleet.findIdx? fun c => c.socket = some socket

/-- Wakes the connection that holds a socket. -/
def wakeClient (b : Bench) (socket : SocketId) : Bench :=
  match b.clientOf? socket with
  | some number => b.wake (.connection number)
  | none => b

/-- Wakes the session of a stream. -/
def wakeServer (b : Bench) (socket : SocketId) : Bench :=
  match b.sessions.findIdx? fun s => s.socket = socket with
  | some number => b.wake (.session number)
  | none => b

/-! ### Effects -/

/-- A stream is there: the node at its port has to accept it, or it will be served by hand. -/
def deliver (b : Bench) (socket : SocketId) : Bench :=
  match ((b.network.streams[socket]?).bind fun s => b.network.port? s.far.port).bind (·.node) with
  | some number =>
      let b := { b with nodes := b.nodes.modify number fun n =>
        { n with backlog := n.backlog ++ [socket] } }
      b.wake (.node number)
  | none => { b with arrivals := b.arrivals ++ [socket] }

/-- A write is resolved. -/
def resolve (b : Bench) (ticket : Nat) (outcome : Outcome) : Bench :=
  { b with submissions := b.submissions.modify ticket fun s =>
      { s with receipt := s.receipt.resolve outcome } }

/-- An effect changes the bench. -/
def absorbOne (b : Bench) (h : Happening) : Bench :=
  match h.effect with
  | .resolved ticket outcome => b.resolve ticket outcome
  | .moved source target event =>
      { b with journal := { b.journal with
          moves := b.journal.moves ++ [(source, target, event)] } }
  | .noticed notice =>
      { b with journal := { b.journal with notices := b.journal.notices ++ [notice] } }
  | .configured settings =>
      { b with journal := { b.journal with settings := b.journal.settings ++ settings } }
  | .dialled =>
      match h.connection with
      | some number =>
          match b.fleet[number]? with
          | some c =>
              let dial := b.network.dial b.now c.endpoint
              { b with dials := (number, dial) :: b.dials.filter (·.1 ≠ number) }
          | none => b
      | none => b
  | .transmitted socket bytes =>
      { b with network := b.network.onStream socket (·.send bytes) }.wakeServer socket
  | .hungUp socket =>
      { b with network := b.network.onStream socket (·.hangUp) }.wakeServer socket
  | .released waiter => { b with released := waiter :: b.released }

/-- Effects change the bench in order. -/
def absorb (b : Bench) (happenings : List Happening) : Bench := happenings.foldl absorbOne b

end Bench

end Uplink
