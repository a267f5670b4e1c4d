/-
A pool of connections.

Connections are kept by number in a fleet; a pool holds the numbers of its own.  A pool places
writes, moves the writes that wait at one connection to others, and connects again what has failed.

* `Uplink.Fleet` — connections by number;
* `Uplink.Happening` — an effect, with the connection it comes from;
* `Uplink.Pool.add` — a new connection joins;
* `Uplink.Pool.connectAll`, `Uplink.Pool.reconnectFailed` — connects;
* `Uplink.Pool.submit`, `Uplink.Pool.reroute` — writes are placed;
* `Uplink.Pool.discharge` — a connection leaves, and its writes are handed back.
-/

import Uplink.Connection.Blueprint
import Uplink.Connection.Owner
import Uplink.Pool.Arena

set_option relaxedAutoImplicit false
set_option autoImplicit false

namespace Uplink

/-- Connections by number. -/
abbrev Fleet := List Connection

/-- An effect with the number of the connection it comes from, if it comes from one. -/
structure Happening where
  /-- The connection. -/
  connection : Option Nat
  /-- The effect. -/
  effect : Effect
deriving DecidableEq, Repr

namespace Fleet

/-- A connection does something. -/
def step (f : Fleet) (number : Nat) (act : Connection → Progress) : Fleet × List Happening :=
  match f[number]? with
  | some c =>
      let p := act c
      (f.set number p.next, p.effects.map fun e => ⟨some number, e⟩)
  | none => (f, [])

/-- Several connections do something, one after the other. -/
def steps (f : Fleet) : List (Nat × (Connection → Progress)) → Fleet × List Happening
  | [] => (f, [])
  | (number, act) :: rest =>
      let (f, first) := f.step number act
      let (f, others) := steps f rest
      (f, first ++ others)

/-- The connection with a number is free. -/
def isFree (f : Fleet) (number : Nat) : Bool := (f[number]?).any (·.isFree)

/-- How many writes wait at a connection that is connected or about to be. -/
def load? (f : Fleet) (number : Nat) : Option Nat :=
  match f[number]? with
  | some c => if c.status.isConnected ∨ c.status = .connecting then some c.pending else none
  | none => none

end Fleet

namespace Pool

/-- Adds a new connection, which gets the next number of the fleet.  One whose settings cannot be
used is not made. -/
def add (p : Pool) (f : Fleet) (now : Instant) (blueprint : Blueprint) :
    Except ConfigFault PoolHandle × Pool × Fleet :=
  match blueprint.build now with
  | .error fault => (.error fault, p, f)
  | .ok c =>
      let (result, p) := p.insert f.length
      (result, p, f ++ [c])

/-- Connects every member that was never connected or has failed: how many, and the rest. -/
def connectAll (p : Pool) (f : Fleet) : Nat × Fleet × List Happening :=
  let due := p.entries.filter fun (_, member) =>
    (f[member]?).any fun c => c.status = .undefined ∨ c.status = .connectFailed
  (due.length, f.steps (due.map fun (_, member) => (member, Connection.connect)))

/-- Tells the log that a connection connects again, and asks for it. -/
def reconnect (c : Connection) : Progress :=
  Progress.andThen ⟨c, [.noticed (.reconnecting c.info)]⟩ Connection.connect

/-- Connects every member that has failed long enough ago: how many, and the rest. -/
def reconnectFailed (p : Pool) (f : Fleet) (now : Instant) : Nat × Fleet × List Happening :=
  let due := p.entries.filter fun (_, member) => (f[member]?).any (·.isRetryEligible now)
  (due.length, f.steps (due.map fun (_, member) => (member, reconnect)))

/-- The next free member. -/
def nextFree (p : Pool) (f : Fleet) : Option PoolHandle × Pool := p.selectFree f.isFree

/-- Places a write at a member other than the excluded one; without any, the write is cancelled. -/
def place (p : Pool) (f : Fleet) (w : PendingWrite) (excluded : Option PoolHandle) :
    Option PoolHandle × Pool × Fleet × List Happening :=
  let (target, p) := p.choose f.isFree f.load? excluded
  match target.bind fun h => (p.get? h).map fun member => (h, member) with
  | some (h, member) => (some h, p, f.step member (·.write w))
  | none => (none, p, f, [⟨none, .resolved w.ticket (w.undelivered .cancelled)⟩])

/-- Submits a write. -/
def submit (p : Pool) (f : Fleet) (w : PendingWrite) :
    Option PoolHandle × Pool × Fleet × List Happening :=
  p.place f w none

/-- Places writes one after the other: how many found a member. -/
def placeAll (p : Pool) (f : Fleet) (excluded : Option PoolHandle) :
    List PendingWrite → Nat × Pool × Fleet × List Happening
  | [] => (0, p, f, [])
  | w :: rest =>
      let (target, p, f, first) := p.place f w excluded
      let (moved, p, f, others) := placeAll p f excluded rest
      (moved + target.toList.length, p, f, first ++ others)

/-- Moves the writes that wait at a member to other members: how many found one. -/
def reroute (p : Pool) (f : Fleet) (h : PoolHandle) : Nat × Pool × Fleet × List Happening :=
  match p.get? h with
  | none => (0, p, f, [])
  | some member =>
      match f[member]? with
      | none => (0, p, f, [])
      | some c =>
          let (waiting, c) := c.takePending
          p.placeAll (f.set member c) (some h) waiting

/-- Takes a member out and closes it.  The writes that wait there are handed back. -/
def discharge (p : Pool) (f : Fleet) (h : PoolHandle) :
    List PendingWrite × Pool × Fleet × List Happening :=
  match p.remove h with
  | none => ([], p, f, [])
  | some (member, p) =>
      match f[member]? with
      | none => ([], p, f, [])
      | some c =>
          let (waiting, c) := c.takePending
          let (f, happenings) := Fleet.step (f.set member c) member fun c =>
            c.shutdown.andThen (·.letGo)
          (waiting, p, f, happenings)

end Pool

end Uplink
