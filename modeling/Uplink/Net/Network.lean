/-
A network of ports and streams.

Every address reaches the same ports.  A port can delay, refuse or ignore connects; its settings are
looked at when a connect starts, but it has to be there when the connect succeeds.

* `Uplink.Port` — a port and how it treats connects;
* `Uplink.Network` — the ports, and the streams in the order in which they were made;
* `Uplink.Dial`, `Uplink.Network.dial` — a connect on its way, and its start;
* `Uplink.Network.join` — the end of a connect whose delay has passed.
-/

import Uplink.Error
import Uplink.Net.Stream

set_option relaxedAutoImplicit false
set_option autoImplicit false

namespace Uplink

/-- A port and how it treats connects. -/
structure Port where
  /-- The number of the port. -/
  number : Nat
  /-- The node that listens here, if it is one. -/
  node : Option Nat := none
  /-- What passes before a connect is treated. -/
  delay : Duration := .zero
  /-- A connect is never answered. -/
  isDeaf : Bool := false
  /-- The failure of every connect. -/
  refusal : Option OsError := none
  /-- The window of the streams made here. -/
  window : Option Nat := none
  /-- Streams made here can tell their addresses. -/
  isNamed : Bool := true
deriving DecidableEq, Repr

/-- A connect on its way. -/
inductive Dial
  /-- It has failed. -/
  | failed (fault : ConnectFault)
  /-- It will never be answered. -/
  | unanswered
  /-- It will be treated at an instant, as the port was set when it started. -/
  | delayed (due : Instant) (ip : IpAddress) (port : Port)
deriving DecidableEq, Repr

/-- The ports and the streams. -/
structure Network where
  /-- The ports, each number once. -/
  ports : List Port := []
  /-- The streams, by number. -/
  streams : List Stream := []
deriving Repr

namespace Network

/-- The first port of the clients. -/
def firstClientPort : Nat := 50001

/-- The port with a number. -/
def port? (net : Network) (number : Nat) : Option Port := net.ports.find? (·.number = number)

/-- Takes a port away. -/
def removePort (net : Network) (number : Nat) : Network :=
  { net with ports := net.ports.filter (·.number ≠ number) }

/-- Sets a port, in place of one with the same number. -/
def setPort (net : Network) (port : Port) : Network :=
  let net := net.removePort port.number
  { net with ports := net.ports ++ [port] }

/-- A stream changes. -/
def onStream (net : Network) (socket : Nat) (f : Stream → Stream) : Network :=
  { net with streams := net.streams.modify socket f }

/-- Starts a connect. -/
def dial (net : Network) (now : Instant) (endpoint : Endpoint) : Dial :=
  match IpAddress.ofHost? endpoint.host with
  | none => .failed (.unresolved endpoint)
  | some ip =>
      match net.port? endpoint.port with
      | none => .failed (.refused endpoint .connectionRefused)
      | some port => if port.isDeaf then .unanswered else .delayed (now.after port.delay) ip port

/-- Ends a connect whose delay has passed: the number of the new stream, or the failure. -/
def join (net : Network) (endpoint : Endpoint) (ip : IpAddress) (port : Port) :
    Except ConnectFault (Nat × Network) :=
  match port.refusal with
  | some error => .error (.refused endpoint error)
  | none =>
      if (net.port? port.number).isNone then .error (.refused endpoint .connectionRefused)
      else
        let stream : Stream := {
          near := ⟨ip, firstClientPort + net.streams.length⟩
          far := ⟨ip, port.number⟩
          isNamed := port.isNamed
          window := port.window }
        .ok (net.streams.length, { net with streams := net.streams ++ [stream] })

end Network

end Uplink
