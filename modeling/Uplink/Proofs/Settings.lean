/-
Reading back a written configuration.

The writer leaves out what is absent, and the reader gives a default to what is missing.  The two
agree on everything but the system's keep-alive: a socket without one is written like a socket whose
keep-alive was never mentioned.

* `Uplink.Config.IsWritable` — the durations read back from their notation, and the numbers fit;
* `Uplink.Config.ofData_written` — what the reader makes of the entries that were written;
* `Uplink.Config.ofToml_toml` — **a configuration reads back from its document**, with the default
  keep-alive if it has none;
* `Uplink.Config.ofToml_toml_ne` — so it need not be the same.
-/

import Uplink.Config.Document
import Uplink.Proofs.Toml.Document

set_option relaxedAutoImplicit false
set_option autoImplicit false

namespace Uplink

open Toml

/-! ### Plain settings -/

namespace Duration

/-- The duration reads back from its notation. -/
def IsWritable (d : Duration) : Prop := parse d.format = .ok d

instance : DecidablePred IsWritable :=
  fun d => inferInstanceAs (Decidable (parse d.format = .ok d))

/-- The notation of a duration is plain text. -/
theorem isPlain_format (d : Duration) : IsPlain (.text d.format) := by
  intro c hc
  refine .inl ?_
  rw [Duration.format, String.toList_append, Nat.toString_eq_repr, Nat.toList_repr,
    List.mem_append] at hc
  rcases hc with hc | hc
  · have hdigit := Char.isDigit_iff_toNat.1 (isDigit_of_mem hc)
    have hrange : 48 ≤ c.toNat ∧ c.toNat ≤ 57 := hdigit
    simp [isControl]
    omega
  · have hsymbol : d.formatUnit.symbol.toList.all (fun c => !isControl c) = true := by
      cases d.formatUnit <;> rfl
    simpa using List.all_eq_true.1 hsymbol c hc

end Duration

namespace Data

theorem printable_format (d : Duration) : Printable (text d.format) := .plain d.isPlain_format

theorem printable_int (n : Int) : Printable (int n) := .plain trivial

theorem printable_bool (b : Bool) : Printable (bool b) := .plain trivial

theorem duration_text {d : Duration} (h : d.IsWritable) : (text d.format).duration = .ok d := by
  rw [duration, h]

theorem natUpTo_int {limit n : Nat} (h : n ≤ limit) : (int n).natUpTo limit = .ok n := by
  simp [natUpTo, h]

theorem optional_of_ok {α : Type} {read : Data → Except DocumentFault α} {data : Data} {value : α}
    (hne : data ≠ .null) (h : read data = .ok value) : data.optional read = .ok (some value) := by
  unfold optional
  split
  · contradiction
  · rw [h]
    rfl

end Data

/-! ### The system's keep-alive -/

namespace KeepAliveOptions

/-- The timings read back from their notation, and the number of retries fits. -/
structure IsWritable (k : KeepAliveOptions) : Prop where
  time : k.time.IsWritable
  interval : k.interval.IsWritable
  retries : k.retries ≤ SocketOptions.maxRetries

/-- The keep-alive as it is read: its entries are sorted. -/
theorem data_written (k : KeepAliveOptions) : (Node.ofData k.toData).data =
    .table [("interval", .text k.interval.format), ("retries", .int k.retries),
      ("time", .text k.time.format)] := by
  simp only [toData, Node.ofData, plainNodes, tableNodes, printValue?, Node.data, entriesData,
    sortedTable, List.filterMap_cons, List.filterMap_nil, Option.map_some, List.append_nil,
    List.foldr_cons, List.foldr_nil, insertSorted, String.reduceLT, if_true, if_false]

theorem printable_toData (k : KeepAliveOptions) : Printable k.toData := by
  refine .table (by simp) (by simp; decide) ?_
  simp [Data.printable_format, Data.printable_int]

theorem ofData_written {k : KeepAliveOptions} (h : k.IsWritable) :
    ofData true (Node.ofData k.toData).data = .ok k := by
  rw [data_written]
  simp only [ofData, readRecord, readEntries, settings]
  simp [Data.duration_text h.time, Data.duration_text h.interval, Data.natUpTo_int h.retries]
  rfl

end KeepAliveOptions

/-! ### Socket options -/

namespace SocketOptions

/-- The keep-alive is writable, and the sizes of the buffers fit a word. -/
structure IsWritable (o : SocketOptions) : Prop where
  sendBuffer : ∀ size ∈ o.sendBuffer, size ≤ maxWord
  receiveBuffer : ∀ size ∈ o.receiveBuffer, size ≤ maxWord
  keepAlive : ∀ k ∈ o.keepAlive, k.IsWritable

/-- The options as they are read: their entries are sorted. -/
theorem data_written (o : SocketOptions) : (Node.ofData o.toData).data = .table (
    (o.keepAlive.toList.map fun k => ("keepalive", (Node.ofData k.toData).data)) ++
    [("nodelay", .bool o.noDelay)] ++
    (o.receiveBuffer.toList.map fun size => ("recv_buffer", .int size)) ++
    (o.sendBuffer.toList.map fun size => ("send_buffer", .int size))) := by
  obtain ⟨noDelay, send, receive, keepAlive⟩ := o
  cases send <;> cases receive <;> cases keepAlive <;>
    simp only [toData, KeepAliveOptions.toData, Node.ofData, plainNodes, tableNodes, printValue?,
      Node.data, entriesData, sortedTable, Option.toList_none, Option.toList_some, List.map_cons,
      List.map_nil, List.cons_append, List.nil_append, List.filterMap_cons, List.filterMap_nil,
      Option.map_some, Option.map_none, List.append_nil, List.foldr_cons, List.foldr_nil,
      insertSorted, String.reduceLT, if_true, if_false]

theorem printable_toData (o : SocketOptions) : Printable o.toData := by
  obtain ⟨noDelay, send, receive, keepAlive⟩ := o
  refine .table ?_ ?_ ?_
  · cases send <;> cases receive <;> cases keepAlive <;> simp
  · cases send <;> cases receive <;> cases keepAlive <;> simp <;> decide
  · cases send <;> cases receive <;> cases keepAlive <;>
      simp [Data.printable_bool, Data.printable_int, KeepAliveOptions.printable_toData]

theorem ofData_written {o : SocketOptions} (h : o.IsWritable) :
    ofData true (Node.ofData o.toData).data =
      .ok { o with keepAlive := some (o.keepAlive.getD {}) } := by
  have hbuffer {size : Nat} (hsize : size ≤ maxWord) :
      (Data.int size).optional (Data.natUpTo maxWord) = .ok (some size) :=
    Data.optional_of_ok nofun (Data.natUpTo_int hsize)
  have hkeepAlive {k : KeepAliveOptions} (hk : k.IsWritable) :
      (Node.ofData k.toData).data.optional (KeepAliveOptions.ofData true) = .ok (some k) :=
    Data.optional_of_ok (by rw [KeepAliveOptions.data_written]; nofun)
      (KeepAliveOptions.ofData_written hk)
  obtain ⟨noDelay, send, receive, keepAlive⟩ := o
  obtain ⟨hsend, hreceive, hk⟩ := h
  rw [data_written]
  -- A missing size is read as `none`, a missing keep-alive as the default one.
  cases send <;> cases receive <;> cases keepAlive <;>
    simp_all [ofData, readRecord, readEntries, settings, Data.flag, Functor.map, Except.map]

end SocketOptions

/-! ### Configurations -/

namespace Config

/-- The durations read back from their notation, and the sizes fit a word. -/
structure IsWritable (c : Config) : Prop where
  connectTimeout : c.connectTimeout.IsWritable
  requestTimeout : ∀ d ∈ c.requestTimeout, d.IsWritable
  idleTime : c.idleTime.IsWritable
  detectionInterval : c.detectionInterval.IsWritable
  receiveBlockSize : c.receiveBlockSize ≤ maxWord
  maxFrameSize : c.maxFrameSize ≤ maxWord
  retryInterval : c.retryInterval.IsWritable
  socket : c.socket.IsWritable

/-- The configuration as it is read: its entries are sorted. -/
theorem data_written (c : Config) : (Node.ofData c.toData).data = .table (
    [("connect_timeout", .text c.connectTimeout.format),
      ("detection_interval", .text c.detectionInterval.format),
      ("expect_response", .bool c.expectResponse),
      ("idle_time", .text c.idleTime.format),
      ("max_frame_size", .int c.maxFrameSize),
      ("receive_block_size", .int c.receiveBlockSize)] ++
    (c.requestTimeout.toList.map fun d => ("request_timeout", .text d.format)) ++
    [("retry_interval", .text c.retryInterval.format),
      ("tcp", (Node.ofData c.socket.toData).data)]) := by
  obtain ⟨connect, request, idle, detection, expect, block, frame, retry, socket⟩ := c
  cases request <;>
    simp only [toData, SocketOptions.toData, Node.ofData, plainNodes, tableNodes, printValue?,
      Node.data, entriesData, sortedTable, Option.toList_none, Option.toList_some, List.map_cons,
      List.map_nil, List.cons_append, List.nil_append, List.filterMap_cons, List.filterMap_nil,
      Option.map_some, Option.map_none, List.append_nil, List.foldr_cons, List.foldr_nil,
      insertSorted, String.reduceLT, if_true, if_false]

theorem printable_toData (c : Config) : Printable c.toData := by
  obtain ⟨connect, request, idle, detection, expect, block, frame, retry, socket⟩ := c
  refine .table ?_ ?_ ?_
  · cases request <;> simp
  · cases request <;> simp <;> decide
  · cases request <;>
      simp [Data.printable_format, Data.printable_bool, Data.printable_int,
        SocketOptions.printable_toData]

/-- The configuration with a keep-alive, by default if it has none. -/
def reloaded (c : Config) : Config :=
  { c with socket.keepAlive := some (c.socket.keepAlive.getD {}) }

/-- What the reader makes of the entries that were written. -/
theorem ofData_written {c : Config} (h : c.IsWritable) :
    ofData true (Node.ofData c.toData).data = .ok c.reloaded := by
  have hrequest {d : Duration} (hd : d.IsWritable) :
      (Data.text d.format).optional Data.duration = .ok (some d) :=
    Data.optional_of_ok nofun (Data.duration_text hd)
  have hsocket := SocketOptions.ofData_written h.socket
  obtain ⟨connect, request, idle, detection, expect, block, frame, retry, socket⟩ := c
  obtain ⟨hconnect, hr, hidle, hdetection, hblock, hframe, hretry, -⟩ := h
  rw [data_written]
  cases request <;>
    simp_all [ofData, readRecord, readEntries, settings, Data.flag, Functor.map, Except.map,
      Data.duration_text, Data.natUpTo_int, reloaded]

/-! ### The document -/

theorem ofToml_toml_eq {c : Config} (h : c.IsWritable) : ofToml c.toml = c.reloaded.check := by
  have hparse : Toml.parse c.toml = some (Node.ofData c.toData).data :=
    parse_print c.printable_toData
  rw [ofToml, hparse]
  simp only [ofData_written h]

/-- **A configuration reads back from its document**, with the default keep-alive if it has none. -/
theorem ofToml_toml {c : Config} (hv : c.Valid) (h : c.IsWritable) :
    ofToml c.toml = .ok { c with socket.keepAlive := some (c.socket.keepAlive.getD {}) } := by
  -- Validity does not depend on the keep-alive.
  have hvalid : c.reloaded.Valid := ⟨hv.1, hv.2, hv.3, hv.4, hv.5, hv.6⟩
  rw [ofToml_toml_eq h, check, fault?_eq_none_iff.2 hvalid]
  rfl

/-- The settings of a bulk transfer with a time limit. -/
def sample : Config where
  requestTimeout := some (.ofMicros 1500)
  retryInterval := .ofNanos 250
  socket := .highThroughput

theorem isWritable_sample : sample.IsWritable where
  connectTimeout := by decide
  requestTimeout := by decide
  idleTime := by decide
  detectionInterval := by decide
  receiveBlockSize := by decide
  maxFrameSize := by decide
  retryInterval := by decide
  socket := ⟨by decide, by decide, by
    rintro _ ⟨⟩
    exact ⟨by decide, by decide, by decide⟩⟩

theorem ofToml_toml_sample : ofToml sample.toml = .ok sample :=
  ofToml_toml (fault?_eq_none_iff.1 (by decide)) isWritable_sample

/-- A socket without a keep-alive is read back as one with the default keep-alive. -/
theorem ofToml_toml_ne :
    let c : Config := { socket := { keepAlive := none } }
    c.Valid ∧ c.IsWritable ∧ ofToml c.toml = .ok {} ∧ c ≠ {} := by
  intro c
  have hw : c.IsWritable := by
    refine ⟨?_, nofun, ?_, ?_, ?_, ?_, ?_, nofun, nofun, nofun⟩ <;> decide
  refine ⟨fault?_eq_none_iff.1 (by decide), hw, ?_, by decide⟩
  rw [ofToml_toml_eq hw]
  decide

end Config
end Uplink
