/-
What can go wrong with a connection.

Errors are causes: each constructor names one thing that happened, together with the data of its
message.  The wording is in the `message` functions alone, so that a proof never looks at text.

* `Uplink.ConnectFault`, `Uplink.WriteFault`, `Uplink.ProtocolFault`, `Uplink.ConfigFault` — the
  causes by area;
* `Uplink.ConnectionError` — an error, with `kind`, `message`, `isRetryable` and `isTimeout`;
* `Uplink.Undelivered` — a payload handed back together with the error that stopped it.
-/

import Uplink.Bytes
import Uplink.Duration.Notation
import Uplink.Duration.Spoken
import Uplink.Endpoint
import Uplink.OsError

set_option relaxedAutoImplicit false
set_option autoImplicit false

namespace Uplink

/-! ### Causes -/

/-- Why a connect did not succeed. -/
inductive ConnectFault
  /-- The host has no address. -/
  | unresolved (endpoint : Endpoint)
  /-- The system reported a failure. -/
  | refused (endpoint : Endpoint) (error : OsError)
  /-- A cause given in words. -/
  | described (text : String)
deriving DecidableEq, Repr

/-- The wording of a connect fault. -/
def ConnectFault.message : ConnectFault → String
  | unresolved e =>
      s!"{e.text}: failed to lookup address information: Name or service not known"
  | refused e error => s!"{e.text}: {error.message}"
  | described text => text

/-- Why bytes could not be written. -/
inductive WriteFault
  /-- The system reported a failure. -/
  | broken (error : OsError)
  /-- The request deadline passed. -/
  | timedOut (limit : Duration)
  /-- A probe was not accepted in time. -/
  | probeTimedOut (limit : Duration)
  /-- There is nothing to write. -/
  | nothingInFlight
  /-- There is no socket. -/
  | noSocket
  /-- A cause given in words. -/
  | described (text : String)
deriving DecidableEq, Repr

/-- The wording of a write fault. -/
def WriteFault.message : WriteFault → String
  | broken error => error.message
  | timedOut limit => s!"request timed out after {limit.spoken}"
  | probeTimedOut limit => s!"probe not sent within {limit.spoken}"
  | nothingInFlight => "no buffer in flight"
  | noSocket => "socket closed"
  | described text => text

/-- Why bytes can never become a frame. -/
inductive FrameFault
  /-- The header declares less than its own length. -/
  | shorterThanHeader (total : Nat)
  /-- The frame is longer than allowed. -/
  | tooLong (total limit : Nat)
  /-- A cause given in words. -/
  | described (text : String)
deriving DecidableEq, Repr

/-- The wording of a frame fault. -/
def FrameFault.message : FrameFault → String
  | shorterThanHeader total => s!"declared length {total} shorter than header"
  | tooLong total limit => s!"frame of {total} bytes exceeds limit of {limit}"
  | described text => text

/-- Why a response is missing or unusable, or a payload cannot be framed. -/
inductive ProtocolFault
  /-- The system reported a failure while reading. -/
  | readFailed (error : OsError)
  /-- The stream ended. -/
  | closedByPeer
  /-- The receive block is full at its ceiling. -/
  | blockFull (ceiling : Nat)
  /-- The request deadline passed. -/
  | noResponse (limit : Duration)
  /-- Bytes follow a complete response. -/
  | trailing (extra length : Nat)
  /-- The bytes are no frame. -/
  | frame (fault : FrameFault)
  /-- A length does not fit the header. -/
  | lengthTooWide (length header : Nat)
  /-- There is no socket. -/
  | noSocket
  /-- The connection failed for no recorded reason. -/
  | unexplained
  /-- A cause given in words. -/
  | described (text : String)
deriving DecidableEq, Repr

/-- The wording of a protocol fault. -/
def ProtocolFault.message : ProtocolFault → String
  | readFailed error => s!"read failed: {error.message}"
  | closedByPeer => "connection closed by peer"
  | blockFull ceiling => s!"response exceeds max frame size of {ceiling} bytes"
  | noResponse limit => s!"no response within {limit.spoken}"
  | trailing extra length => s!"{extra} unexpected bytes after {length}-byte response"
  | frame fault => fault.message
  | lengthTooWide length header => s!"length {length} does not fit a {header}-byte header"
  | noSocket => "socket closed"
  | unexplained => "connection failed"
  | described text => text

/-- Why a configuration document was not accepted. -/
inductive DocumentFault
  /-- The document is not well formed, or a value has the wrong type. -/
  | malformed
  /-- The text of a duration is wrong. -/
  | duration (fault : NotationError)
  /-- A required field is missing. -/
  | missing (field : String)
deriving DecidableEq, Repr

/-- What is told about a document fault beyond the fact itself. -/
def DocumentFault.detail? : DocumentFault → Option String
  | malformed => none
  | duration fault => some fault.message
  | missing field => some s!"missing field `{field}`"

/-- Why a configuration cannot be used. -/
inductive ConfigFault
  /-- A span that has to be positive is zero. -/
  | zero (field : String)
  /-- The request timeout is given as zero. -/
  | zeroRequestTimeout
  /-- The receive block would hold nothing. -/
  | zeroReceiveBlock
  /-- The largest frame is smaller than the receive block. -/
  | ceilingBelowBlock (ceiling block : Nat)
  /-- A document was not accepted. -/
  | document (fault : DocumentFault)
  /-- A file could not be read. -/
  | unreadable (path reason : String)
  /-- No index is left for another connection. -/
  | poolFull
  /-- A log filter is not well formed. -/
  | logFilter (filter : String)
  /-- A log is already being written. -/
  | logInstalled
  /-- A cause given in words. -/
  | described (text : String)
deriving DecidableEq, Repr

/-- The wording of a configuration fault. -/
def ConfigFault.message : ConfigFault → String
  | zero field => s!"{field} must be non-zero"
  | zeroRequestTimeout => "request_timeout must be non-zero when set"
  | zeroReceiveBlock => "receive_block_size must be non-zero"
  | ceilingBelowBlock ceiling block =>
      s!"max_frame_size ({ceiling}) is smaller than receive_block_size ({block})"
  | document fault =>
      match fault.detail? with
      | some detail => s!"Failed to parse TOML: {detail}"
      | none => "Failed to parse TOML"
  | unreadable path reason => s!"Failed to read {path}: {reason}"
  | poolFull => "connection pool is full"
  | logFilter filter => s!"Invalid log filter '{filter}'"
  | logInstalled =>
      "Failed to install subscriber: a global default trace dispatcher has already been set"
  | described text => text

/-! ### Errors -/

/-- The coarse classes of errors. -/
inductive ErrorKind
  | connect
  | write
  | protocol
  | idleTimeout
  | cancelled
  | config
deriving DecidableEq, Repr

/-- The name of a class of errors. -/
def ErrorKind.name : ErrorKind → String
  | connect => "Connect"
  | write => "Write"
  | protocol => "Protocol"
  | idleTimeout => "IdleTimeout"
  | cancelled => "Cancelled"
  | config => "Config"

/-- What went wrong with a connection. -/
inductive ConnectionError
  /-- The node refused the connection or could not be reached. -/
  | connect (fault : ConnectFault)
  /-- The connect took too long. -/
  | connectTimeout (limit : Duration)
  /-- A payload or a probe could not be written. -/
  | write (fault : WriteFault)
  /-- A response is malformed, unexpected or missing. -/
  | protocol (fault : ProtocolFault)
  /-- The connection was idle and a probe went unanswered. -/
  | idleTimeout (idle : Duration)
  /-- The connection was closed first. -/
  | cancelled
  /-- The configuration cannot be used. -/
  | config (fault : ConfigFault)
  /-- A failure of input or output outside the connection. -/
  | io (text : String)
deriving DecidableEq, Repr

namespace ConnectionError

/-- The class of an error. -/
def kind : ConnectionError → ErrorKind
  | connect _ | connectTimeout _ => .connect
  | write _ | io _ => .write
  | protocol _ => .protocol
  | idleTimeout _ => .idleTimeout
  | cancelled => .cancelled
  | config _ => .config

/-- The wording of an error. -/
def message : ConnectionError → String
  | connect fault => s!"Connect failed: {fault.message}"
  | connectTimeout limit => s!"Connect timed out after {limit.spoken}"
  | write fault => s!"Write failed: {fault.message}"
  | protocol fault => s!"Protocol error: {fault.message}"
  | idleTimeout idle => s!"Connection idle for {idle.spoken} and keep-alive probe unanswered"
  | cancelled => "Operation cancelled: connection closed"
  | config fault => s!"Configuration error: {fault.message}"
  | io text => s!"I/O error: {text}"

/-- Another connection may succeed: every error but a wrong configuration. -/
def isRetryable (e : ConnectionError) : Bool := e.kind ≠ .config

/-- The error is that time ran out on a connect or on an idle connection. -/
def isTimeout : ConnectionError → Bool
  | connectTimeout _ | idleTimeout _ => true
  | _ => false

end ConnectionError

/-- A payload that was not delivered, handed back with the reason. -/
structure Undelivered where
  /-- The payload as it was submitted. -/
  payload : Bytes
  /-- Why it was not delivered. -/
  error : ConnectionError
deriving DecidableEq, Repr

/-- The wording of an undelivered payload. -/
def Undelivered.message (u : Undelivered) : String :=
  s!"Payload of {u.payload.length} bytes undelivered: {u.error.message}"

end Uplink
