/-
The address a connection is told to connect to: a host, by name or by number, and a port.
-/

set_option relaxedAutoImplicit false
set_option autoImplicit false

namespace Uplink

/-- Where an ingestion node is expected to listen. -/
structure Endpoint where
  /-- A host name or an address in text. -/
  host : String
  /-- The port. -/
  port : Nat
deriving DecidableEq, Repr

/-- An endpoint as `host:port`. -/
def Endpoint.text (e : Endpoint) : String := s!"{e.host}:{e.port}"

end Uplink
