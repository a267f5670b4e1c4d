/-
Configurations as data.

A configuration is read from a table of its settings; a setting that is missing has its default, an
unknown key is ignored.  The settings of the system's keep-alive have no defaults.  A table may also
be given as a list of its settings in order.  Entries are looked at in the order in which the table
has them, and the first wrong one is reported; a missing entry is noticed last.

* `Uplink.Config.ofData`, `Uplink.SocketOptions.ofData`, `Uplink.KeepAliveOptions.ofData` — reading;
* `Uplink.Config.toData`, `Uplink.SocketOptions.toData`, `Uplink.KeepAliveOptions.toData` — writing;
* `Uplink.Config.ofToml`, `Uplink.Config.toml` — the same with TOML documents;
* `Uplink.Config.ofFile` — the configuration in a file that may turn out unreadable.
-/

import Uplink.Config
import Uplink.Toml.Document
import Uplink.Toml.Printer

set_option relaxedAutoImplicit false
set_option autoImplicit false

namespace Uplink

/-! ### Plain settings -/

namespace Data

/-- A duration: a number of seconds, or a text in the duration notation. -/
def duration : Data → Except DocumentFault Duration
  | .int n => if 0 ≤ n ∧ n.toNat ≤ maxWord then .ok (.ofSecs n.toNat) else .error .malformed
  | .text written =>
      match Duration.parse written with
      | .ok d => .ok d
      | .error fault => .error (.duration fault)
  | _ => .error .malformed

/-- A truth value. -/
def flag : Data → Except DocumentFault Bool
  | .bool b => .ok b
  | _ => .error .malformed

/-- A whole number up to a limit. -/
def natUpTo (limit : Nat) : Data → Except DocumentFault Nat
  | .int n => if 0 ≤ n ∧ n.toNat ≤ limit then .ok n.toNat else .error .malformed
  | _ => .error .malformed

/-- A value that may be absent. -/
def optional {α : Type} (read : Data → Except DocumentFault α) :
    Data → Except DocumentFault (Option α)
  | .null => .ok none
  | data => (read data).map some

end Data

/-! ### Tables of settings -/

/-- One setting of a record: its key, and how its value changes the record. -/
structure Setting (α : Type) where
  /-- The key. -/
  key : String
  /-- The record with the setting read from a value. -/
  read : Data → α → Except DocumentFault α

/-- Reads the entries of a table in order; unknown keys are ignored. -/
def readEntries {α : Type} (settings : List (Setting α)) :
    List (String × Data) → α → Except DocumentFault α
  | [], record => .ok record
  | (key, data) :: rest, record =>
      match settings.find? (·.key = key) with
      | none => readEntries settings rest record
      | some setting =>
          match setting.read data record with
          | .ok record => readEntries settings rest record
          | .error fault => .error fault

/-- Reads the items of a list as the settings in order.  Whether items may be left over depends on
the format. -/
def readItems {α : Type} (leftover : Bool) :
    List (Setting α) → List Data → α → Except DocumentFault α
  | setting :: settings, data :: rest, record =>
      match setting.read data record with
      | .ok record => readItems leftover settings rest record
      | .error fault => .error fault
  | [], _ :: _, record => if leftover then .ok record else .error .malformed
  | _, [], record => .ok record

/-- Reads a record from a table or a list. -/
def readRecord {α : Type} (leftover : Bool) (settings : List (Setting α)) (record : α) :
    Data → Except DocumentFault α
  | .table entries => readEntries settings entries record
  | .list items => readItems leftover settings items record
  | _ => .error .malformed

/-! ### The system's keep-alive -/

namespace KeepAliveOptions

/-- The settings of the keep-alive while it is read, none of which has a default. -/
structure Draft where
  time : Option Duration := none
  interval : Option Duration := none
  retries : Option Nat := none

/-- The settings of a draft. -/
def settings : List (Setting Draft) :=
  [⟨"time", fun data d => do return { d with time := some (← data.duration) }⟩,
   ⟨"interval", fun data d => do return { d with interval := some (← data.duration) }⟩,
   ⟨"retries", fun data d => do
      return { d with retries := some (← data.natUpTo SocketOptions.maxRetries) }⟩]

/-- The keep-alive of a draft, or the first setting that is missing. -/
def Draft.finish (d : Draft) : Except DocumentFault KeepAliveOptions :=
  match d.time, d.interval, d.retries with
  | none, _, _ => .error (.missing "time")
  | _, none, _ => .error (.missing "interval")
  | _, _, none => .error (.missing "retries")
  | some time, some interval, some retries => .ok { time, interval, retries }

/-- Reads the keep-alive.  A list that is too short is merely malformed. -/
def ofData (leftover : Bool) (data : Data) : Except DocumentFault KeepAliveOptions := do
  let draft ← readRecord leftover settings {} data
  match data, draft.finish with
  | .list _, .error _ => .error .malformed
  | _, result => result

/-- Writes the keep-alive. -/
def toData (k : KeepAliveOptions) : Data :=
  .table [("time", .text k.time.format), ("interval", .text k.interval.format),
    ("retries", .int k.retries)]

end KeepAliveOptions

/-! ### Socket options -/

namespace SocketOptions

/-- The settings of a socket. -/
def settings (leftover : Bool) : List (Setting SocketOptions) :=
  [⟨"nodelay", fun data o => do return { o with noDelay := ← data.flag }⟩,
   ⟨"send_buffer", fun data o => do
      return { o with sendBuffer := ← data.optional (Data.natUpTo maxWord) }⟩,
   ⟨"recv_buffer", fun data o => do
      return { o with receiveBuffer := ← data.optional (Data.natUpTo maxWord) }⟩,
   ⟨"keepalive", fun data o => do
      return { o with keepAlive := ← data.optional (KeepAliveOptions.ofData leftover) }⟩]

/-- Reads the options of a socket. -/
def ofData (leftover : Bool) (data : Data) : Except DocumentFault SocketOptions :=
  readRecord leftover (settings leftover) {} data

/-- Writes the options of a socket; what is absent is left out. -/
def toData (o : SocketOptions) : Data :=
  .table <|
    [("nodelay", .bool o.noDelay)] ++
    (o.sendBuffer.toList.map fun size => ("send_buffer", .int size)) ++
    (o.receiveBuffer.toList.map fun size => ("recv_buffer", .int size)) ++
    (o.keepAlive.toList.map fun k => ("keepalive", k.toData))

end SocketOptions

/-! ### Configurations -/

namespace Config

/-- The settings of a connection. -/
def settings (leftover : Bool) : List (Setting Config) :=
  [⟨"connect_timeout", fun data c => do return { c with connectTimeout := ← data.duration }⟩,
   ⟨"request_timeout", fun data c => do
      return { c with requestTimeout := ← data.optional Data.duration }⟩,
   ⟨"idle_time", fun data c => do return { c with idleTime := ← data.duration }⟩,
   ⟨"detection_interval", fun data c => do return { c with detectionInterval := ← data.duration }⟩,
   ⟨"expect_response", fun data c => do return { c with expectResponse := ← data.flag }⟩,
   ⟨"receive_block_size", fun data c => do
      return { c with receiveBlockSize := ← data.natUpTo maxWord }⟩,
   ⟨"max_frame_size", fun data c => do return { c with maxFrameSize := ← data.natUpTo maxWord }⟩,
   ⟨"retry_interval", fun data c => do return { c with retryInterval := ← data.duration }⟩,
   ⟨"tcp", fun data c => do return { c with socket := ← SocketOptions.ofData leftover data }⟩]

/-- Reads a configuration, without checking that a connection can run with it. -/
def ofData (leftover : Bool) (data : Data) : Except DocumentFault Config :=
  readRecord leftover (settings leftover) {} data

/-- Writes a configuration; what is absent is left out. -/
def toData (c : Config) : Data :=
  .table <|
    [("connect_timeout", .text c.connectTimeout.format)] ++
    (c.requestTimeout.toList.map fun d => ("request_timeout", .text d.format)) ++
    [("idle_time", .text c.idleTime.format),
     ("detection_interval", .text c.detectionInterval.format),
     ("expect_response", .bool c.expectResponse),
     ("receive_block_size", .int c.receiveBlockSize),
     ("max_frame_size", .int c.maxFrameSize),
     ("retry_interval", .text c.retryInterval.format),
     ("tcp", c.socket.toData)]

/-- Reads and checks the configuration in a TOML document. -/
def ofToml (document : String) : Except ConfigFault Config :=
  match Toml.parse document with
  | none => .error (.document .malformed)
  | some data =>
      match ofData true data with
      | .error fault => .error (.document fault)
      | .ok config => config.check

/-- The TOML document of a configuration. -/
def toml (c : Config) : String := Toml.print c.toData

/-- What a file holds, as far as reading a configuration goes. -/
inductive FileContent
  /-- The file could not be read. -/
  | unreadable (error : OsError)
  /-- The file holds bytes that are no text. -/
  | notText
  /-- The file holds a text. -/
  | text (document : String)

/-- The configuration in the file at `path`. -/
def ofFile (path : String) : FileContent → Except ConfigFault Config
  | .unreadable error => .error (.unreadable path error.message)
  | .notText => .error (.unreadable path "stream did not contain valid UTF-8")
  | .text document => ofToml document

end Config

end Uplink
