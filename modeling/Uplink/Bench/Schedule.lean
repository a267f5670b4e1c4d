/-
Running a bench.

The agents in the line run one after the other, each until it has nothing left to do, while the
clock stands still.  When the line is empty the clock may be moved to the next timer.

* `Uplink.Bench.turnConnection`, `Uplink.Bench.turnNode`, `Uplink.Bench.turnSession` — one small
  step of an agent, if there is one to take;
* `Uplink.Bench.settle` — everything runs until nothing moves;
* `Uplink.Bench.nextTimer?` — when something will be able to run again;
* `Uplink.Bench.advance` — the clock is moved by a span;
* `Uplink.Bench.waitUntil` — the clock is moved until something has come about.

Every loop has a bound on its rounds that no bench comes near.
-/

import Uplink.Bench.World

set_option relaxedAutoImplicit false
set_option autoImplicit false

namespace Uplink.Bench

/-- The bound on the rounds of a loop. -/
def rounds : Nat := 1000000000000

/-! ### Small steps -/

/-- The task of a connection takes a step. -/
def stepConnection (b : Bench) (number : Nat) (stimulus : Stimulus) : Bench :=
  let (fleet, happenings) := b.fleet.step number (·.turn b.now stimulus)
  let b := { b with fleet }
  let b :=
    match stimulus with
    | .dialled link => b.deliver link.socket
    | _ => b
  b.absorb happenings

/-- One step of a connection. -/
def turnConnection (b : Bench) (number : Nat) : Option Bench :=
  match b.fleet[number]? with
  | none => none
  | some c =>
      match c.position with
      | .finished | .crashed => none
      | .parked phase =>
          (b.stimulus? number c phase).map fun (b, stimulus) => b.stepConnection number stimulus
      | .spawned | .entering | .signalled _ | .overflowed => some (b.stepConnection number .command)

/-- A node stops to accept: nobody listens at its port any more, and streams that were not accepted
are closed. -/
def closeNode (b : Bench) (number : Nat) (n : Node) : Bench :=
  let listens := (b.network.port? n.port).bind (·.node) = some number
  let network := if listens then b.network.removePort n.port else b.network
  let network := n.backlog.foldl (fun net socket => net.onStream socket (·.close)) network
  let b : Bench := { b with
    network
    nodes := b.nodes.modify number fun n => { n with isAccepting := false, backlog := [] } }
  n.backlog.foldl wakeClient b

/-- A node accepts a stream. -/
def acceptStream (b : Bench) (number : Nat) (socket : SocketId) (rest : List SocketId) : Bench :=
  let b : Bench := { b with
    nodes := b.nodes.modify number fun n =>
      { n with backlog := rest, connections := n.connections + 1 }
    sessions := b.sessions ++ [⟨number, socket, [], none, true⟩] }
  b.wake (.session (b.sessions.length - 1))

/-- One step of a node. -/
def turnNode (b : Bench) (number : Nat) : Option Bench :=
  match b.nodes[number]? with
  | none => none
  | some n =>
      if !b.isNodeReady number then none
      else if n.isStopping ∨ (b.network.port? n.port).bind (·.node) ≠ some number then
        some (b.closeNode number n)
      else
        match n.backlog with
        | socket :: rest => some (b.acceptStream number socket rest)
        | [] => none

/-- One step of a session. -/
def turnSession (b : Bench) (number : Nat) : Option Bench := do
  let s ← b.sessions[number]?
  let n ← b.nodes[s.node]?
  let t ← b.network.streams[s.socket]?
  let (s, n, t) ← s.turn? n t b.now
  let b : Bench := { b with
    network := b.network.onStream s.socket fun _ => t
    nodes := b.nodes.set s.node n
    sessions := b.sessions.set number s }
  some (b.wakeClient s.socket)

/-- One step of an agent, if it can take one. -/
def turn (b : Bench) : Agent → Option Bench
  | .connection number => b.turnConnection number
  | .node number => b.turnNode number
  | .session number => b.turnSession number

/-! ### Running -/

/-- An agent runs until it has nothing left to do. -/
def exhaust (agent : Agent) : Nat → Bench → Bench
  | 0, b => b
  | fuel + 1, b =>
      match b.turn agent with
      | some b => exhaust agent fuel b
      | none => b

/-- The agents in the line run in order until the line is empty. -/
def drainLine : Nat → Bench → Bench
  | 0, b => b
  | fuel + 1, b =>
      match b.line with
      | [] => b
      | agent :: rest => drainLine fuel (exhaust agent rounds { b with line := rest })

/-- Everything runs until nothing moves. -/
def settle (b : Bench) : Bench := drainLine rounds b

/-! ### Time -/

/-- When the connect of a connection will go on. -/
def dialTimer (b : Bench) (number : Nat) : List Instant :=
  match b.dials.lookup number with
  | some (.delayed due _ _) => [due]
  | _ => []

/-- When a connection will be able to run again. -/
def connectionTimers (b : Bench) (number : Nat) (c : Connection) : List Instant :=
  match c.position with
  | .parked phase =>
      (timers c phase).map (·.1) ++
        match phase with
        | .connecting _ => b.dialTimer number
        | _ => []
  | _ => []

/-- When a session will be able to run again. -/
def sessionTimers (s : Session) : List Instant :=
  if s.isOpen then s.pause.toList.map (·.1) else []

/-- The earliest of some instants. -/
def earliest : List Instant → Option Instant
  | [] => none
  | t :: rest =>
      match earliest rest with
      | some u => if u < t then some u else some t
      | none => some t

/-- When something will be able to run again. -/
def nextTimer? (b : Bench) : Option Instant :=
  earliest (b.fleet.zipIdx.flatMap (fun (c, number) => b.connectionTimers number c) ++
    b.sessions.flatMap sessionTimers)

/-- The clock is moved to an instant that is not past, and what can run then gets into the line. -/
def moveClock (b : Bench) (t : Instant) : Bench :=
  let b := { b with now := b.now.max t }
  b.wakeAll b.agents

/-- Everything runs, the clock being moved from timer to timer up to an instant. -/
def runUntil (target : Instant) : Nat → Bench → Bench
  | 0, b => b
  | fuel + 1, b =>
      let b := b.settle
      match b.nextTimer? with
      | some t => if t ≤ target then runUntil target fuel (b.moveClock t) else b
      | none => b

/-- The clock is moved by a span, and everything runs that has something to do on the way. -/
def advance (b : Bench) (span : Duration) : Bench :=
  let target := b.now.after span
  { runUntil target rounds b with now := target }

/-- Everything runs, the clock being moved from timer to timer before an instant, until something
has come about.  Without an instant there is no limit. -/
def waitUntil (hasCome : Bench → Bool) (limit : Option Instant) : Nat → Bench → Bench
  | 0, b => b
  | fuel + 1, b =>
      let b := b.settle
      if hasCome b then b
      else
        match b.nextTimer? with
        | some t =>
            match limit with
            | some target =>
                if t < target then waitUntil hasCome limit fuel (b.moveClock t)
                -- At the limit itself nothing runs before the answer.
                else b.moveClock target
            | none => waitUntil hasCome limit fuel (b.moveClock t)
        | none =>
            match limit with
            | some target => b.moveClock target
            | none => b

end Uplink.Bench
