/-
What a connection tells its log.

* `Uplink.Notice` — the things worth a line, with the data of that line;
* `Uplink.Notice.level`, `Uplink.Notice.message`, `Uplink.Notice.fields` — the parts of the line;
* `Uplink.Notice.line` — the line without time and target.
-/

import Uplink.ClientInfo
import Uplink.Error
import Uplink.Log.Record
import Uplink.Status

set_option relaxedAutoImplicit false
set_option autoImplicit false

namespace Uplink

/-- What a connection, or the pool it is in, tells its log. -/
inductive Notice
  /-- The task runs. -/
  | started (conn : ClientInfo)
  /-- The status changed. -/
  | moved (conn : ClientInfo) (source target : Status) (event : Event)
  /-- A connect was started. -/
  | connecting (conn : ClientInfo) (endpoint : Endpoint)
  /-- A connect succeeded. -/
  | connected (conn : ClientInfo) (took : Duration)
  /-- The socket refused an option. -/
  | optionRefused (conn : ClientInfo) (error : OsError)
  /-- A probe was sent. -/
  | probeSent (conn : ClientInfo)
  /-- A probe was answered. -/
  | probeAnswered (conn : ClientInfo)
  /-- A probe could not be sent. -/
  | probeFailed (conn : ClientInfo) (error : ConnectionError)
  /-- A probe will not be answered. -/
  | probeUnanswered (conn : ClientInfo) (error : ConnectionError)
  /-- The connection failed. -/
  | failed (conn : ClientInfo) (error : ConnectionError)
  /-- The connection was closed. -/
  | closed (conn : ClientInfo) (cancelled : Nat)
  /-- The machine rejected an event. -/
  | rejected (conn : ClientInfo) (rejection : Rejection)
  /-- There is no task to take a command. -/
  | commandDropped (endpoint : Endpoint)
  /-- The pool connects again. -/
  | reconnecting (conn : ClientInfo)
deriving DecidableEq, Repr

namespace Notice

/-- How important a notice is. -/
def level : Notice → LogLevel
  | started _ | moved _ _ _ _ | connecting _ _ | probeSent _ | probeAnswered _ | probeFailed _ _
  | probeUnanswered _ _ | rejected _ (.terminal _) | commandDropped _ | reconnecting _ => .debug
  | connected _ _ | closed _ _ => .info
  | optionRefused _ _ | failed _ _ | rejected _ (.invalid _ _) => .warn

/-- The wording of a notice. -/
def message : Notice → String
  | started _ => "Connection task started"
  | moved _ _ _ _ => "Transition"
  | connecting _ _ => "Connecting"
  | connected _ _ => "Connected"
  | optionRefused _ _ => "Failed to apply socket options"
  | probeSent _ => "Keep-alive probe sent"
  | probeAnswered _ => "Keep-alive probe answered"
  | probeFailed _ _ => "Keep-alive probe failed"
  | probeUnanswered _ _ => "Keep-alive probe unanswered"
  | failed _ _ => "Connection failed"
  | closed _ _ => "Connection closed"
  | rejected _ (.terminal _) => "Event after close discarded"
  | rejected _ (.invalid _ _) => "Unexpected event ignored"
  | commandDropped _ => "Connection task gone, command dropped"
  | reconnecting _ => "Reconnecting"

/-- The field that says which connection a notice is about. -/
def about (conn : ClientInfo) : String × LogValue := ("conn", .shown conn.text)

/-- The fields of a notice. -/
def fields : Notice → LogFields
  | started conn | probeSent conn | probeAnswered conn | reconnecting conn => [about conn]
  | moved conn source target event =>
      [about conn, ("from", .shown source.name), ("to", .shown target.name),
       ("event", .shown event.name)]
  | connecting conn endpoint => [about conn, ("endpoint", .shown endpoint.text)]
  | connected conn took => [about conn, ("took_ms", .int took.millis)]
  | optionRefused conn error => [about conn, ("error", .shown error.message)]
  | probeFailed conn error | probeUnanswered conn error =>
      [about conn, ("error", .shown error.message)]
  | failed conn error =>
      [about conn, ("error", .shown error.message), ("timeout", .bool error.isTimeout)]
  | closed conn cancelled => [about conn, ("cancelled", .int cancelled)]
  | rejected conn (.terminal event) => [about conn, ("event", .shown event.name)]
  | rejected conn rejection => [about conn, ("error", .shown rejection.message)]
  | commandDropped endpoint => [("conn", .shown endpoint.text)]

/-- The line of a notice: level, wording and fields. -/
def line (n : Notice) : String :=
  String.intercalate " "
    (n.level.label :: n.message :: n.fields.map fun (name, value) => s!"{name}={value.print}")

end Notice

end Uplink
