/-
Socket options set after a connect.

Small requests want no batching, bulk transfers want large buffers, and a silent peer is noticed by
the system's own keep-alive.  Options are set one by one in a fixed order.  A refused option does
not stop the others, except that the three keep-alive timings stop at the first refusal among them;
the first refusal of all is reported.

* `Uplink.SocketOptions` — what a configuration asks for;
* `Uplink.SocketOptions.groups` — the settings in order, in groups that stop at a refusal;
* `Uplink.SocketOptions.apply` — the settings attempted and the first refusal.
-/

import Uplink.Duration
import Uplink.OsError

set_option relaxedAutoImplicit false
set_option autoImplicit false

namespace Uplink

/-- The options the library sets. -/
inductive OptionName
  | noDelay
  | sendBuffer
  | receiveBuffer
  | keepAlive
  | keepIdle
  | keepInterval
  | keepCount
deriving DecidableEq, Repr

namespace OptionName

/-- Every option. -/
def all : List OptionName :=
  [noDelay, sendBuffer, receiveBuffer, keepAlive, keepIdle, keepInterval, keepCount]

/-- The system's name of an option. -/
def text : OptionName → String
  | noDelay => "TCP_NODELAY"
  | sendBuffer => "SO_SNDBUF"
  | receiveBuffer => "SO_RCVBUF"
  | keepAlive => "SO_KEEPALIVE"
  | keepIdle => "TCP_KEEPIDLE"
  | keepInterval => "TCP_KEEPINTVL"
  | keepCount => "TCP_KEEPCNT"

/-- The option with a given name. -/
def ofText? (text : String) : Option OptionName := all.find? (·.text = text)

end OptionName

/-- An option with the value it is set to. -/
structure OptionSetting where
  /-- The option. -/
  name : OptionName
  /-- Its value. -/
  value : Nat
deriving DecidableEq, Repr

/-- A setting as `NAME=value`. -/
def OptionSetting.text (s : OptionSetting) : String := s!"{s.name.text}={s.value}"

/-- The timings of the system's keep-alive. -/
structure KeepAliveOptions where
  /-- Idle time before the first probe. -/
  time : Duration := .ofSecs 60
  /-- Time between probes. -/
  interval : Duration := .ofSecs 10
  /-- Probes without an answer before the socket is given up. -/
  retries : Nat := 6
deriving DecidableEq, Repr

/-- The options of a socket. -/
structure SocketOptions where
  /-- Send small segments at once. -/
  noDelay : Bool := true
  /-- The size of the send buffer, if not the system's. -/
  sendBuffer : Option Nat := none
  /-- The size of the receive buffer, if not the system's. -/
  receiveBuffer : Option Nat := none
  /-- The system's keep-alive, if wanted. -/
  keepAlive : Option KeepAliveOptions := some {}
deriving DecidableEq, Repr

namespace SocketOptions

/-- Options for bulk transfers: segments are batched and buffers are large. -/
def highThroughput : SocketOptions where
  noDelay := false
  sendBuffer := some (256 * 1024)
  receiveBuffer := some (256 * 1024)

/-- The largest value an option takes: options are signed 32-bit numbers. -/
def maxValue : Nat := 2147483647

/-- The largest number of retries: they are counted in 32 bits. -/
def maxRetries : Nat := 4294967295

/-- A size as the value of an option. -/
def sizeValue (size : Nat) : Nat := min size maxValue

/-- A span as the value of an option: whole seconds, at least one. -/
def secondsValue (d : Duration) : Nat := min (max d.secs 1) maxValue

/-- The settings in the order in which they are attempted.  Within a group nothing is attempted
after a refusal. -/
def groups (o : SocketOptions) : List (List OptionSetting) :=
  [[⟨.noDelay, if o.noDelay then 1 else 0⟩]] ++
  (o.sendBuffer.toList.map fun size => [⟨.sendBuffer, sizeValue size⟩]) ++
  (o.receiveBuffer.toList.map fun size => [⟨.receiveBuffer, sizeValue size⟩]) ++
  match o.keepAlive with
  | none => []
  | some k =>
      [[⟨.keepAlive, 1⟩],
       [⟨.keepIdle, secondsValue k.time⟩,
        ⟨.keepInterval, secondsValue k.interval⟩,
        ⟨.keepCount, sizeValue k.retries⟩]]

/-- The settings of a group that are attempted, and the refusal that ends them. -/
def applyGroup (refusal : OptionName → Option OsError) :
    List OptionSetting → List OptionSetting × Option OsError
  | [] => ([], none)
  | setting :: rest =>
      match refusal setting.name with
      | some error => ([setting], some error)
      | none =>
          let (attempted, error) := applyGroup refusal rest
          (setting :: attempted, error)

/-- The settings attempted on a socket that refuses some options, and the first refusal. -/
def apply (o : SocketOptions) (refusal : OptionName → Option OsError) :
    List OptionSetting × Option OsError :=
  let results := o.groups.map (applyGroup refusal)
  (results.flatMap (·.1), results.findSome? (·.2))

end SocketOptions

end Uplink
