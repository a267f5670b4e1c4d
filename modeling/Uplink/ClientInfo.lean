/-
What a connection is called.

A connection is known by its optional name and its route: the endpoint it is meant for until it has
been connected, and afterwards the addresses of both ends of its socket, if they can be told.

* `Uplink.Route` — where a connection leads;
* `Uplink.ClientInfo` — name and route, with the `text` that stands for a connection in messages.
-/

import Uplink.Endpoint
import Uplink.Net.Address

set_option relaxedAutoImplicit false
set_option autoImplicit false

namespace Uplink

/-- Where a connection leads. -/
inductive Route
  /-- To an endpoint; the addresses are not known. -/
  | toEndpoint (endpoint : Endpoint)
  /-- From one address to another. -/
  | between (near far : SocketAddress)
deriving DecidableEq, Repr

/-- The text of a route. -/
def Route.text : Route → String
  | toEndpoint endpoint => s!"-> {endpoint.text}"
  | between near far => s!"{near.text} -> {far.text}"

/-- What a connection is called. -/
structure ClientInfo where
  /-- The name that its owner gave it. -/
  name : Option String
  /-- Where it leads. -/
  route : Route
deriving DecidableEq, Repr

/-- The text that stands for a connection. -/
def ClientInfo.text (info : ClientInfo) : String :=
  match info.name with
  | some name => s!"{name} {info.route.text}"
  | none => info.route.text

end Uplink
