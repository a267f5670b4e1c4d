/-
What a connection counts.

* `Uplink.Counters` — the counters, and one function for each thing that is counted;
* `Uplink.Counters.averageLatency?`, `Uplink.Counters.averageConnectTime?` — means, when there is
  anything to average;
* `Uplink.Counters.successRate` — the share of delivered writes among those delivered or failed;
* `Uplink.Counters.json` — the counters as one line for a statistics sink.
-/

import Uplink.Duration

set_option relaxedAutoImplicit false
set_option autoImplicit false

namespace Uplink

/-- The counters of a connection; times are in microseconds. -/
structure Counters where
  connectAttempts : Nat := 0
  connects : Nat := 0
  connectFailures : Nat := 0
  connectTime : Nat := 0
  lastConnectTime : Nat := 0
  writesSucceeded : Nat := 0
  writesFailed : Nat := 0
  writesCancelled : Nat := 0
  bytesSent : Nat := 0
  bytesReceived : Nat := 0
  responses : Nat := 0
  probesSent : Nat := 0
  idleTimeouts : Nat := 0
  transitions : Nat := 0
  latency : Nat := 0
  maxLatency : Nat := 0
deriving DecidableEq, Repr, Inhabited

namespace Counters

/-- A connect was started. -/
def attempted (c : Counters) : Counters := { c with connectAttempts := c.connectAttempts + 1 }

/-- A connect succeeded after some time. -/
def connected (c : Counters) (took : Duration) : Counters :=
  { c with
    connects := c.connects + 1
    connectTime := c.connectTime + took.micros
    lastConnectTime := took.micros }

/-- A connect failed. -/
def refused (c : Counters) : Counters := { c with connectFailures := c.connectFailures + 1 }

/-- A write was delivered after some time. -/
def delivered (c : Counters) (latency : Duration) : Counters :=
  { c with
    writesSucceeded := c.writesSucceeded + 1
    latency := c.latency + latency.micros
    maxLatency := max c.maxLatency latency.micros }

/-- A write failed. -/
def failed (c : Counters) : Counters := { c with writesFailed := c.writesFailed + 1 }

/-- Some writes were cancelled. -/
def cancelled (c : Counters) (count : Nat) : Counters :=
  { c with writesCancelled := c.writesCancelled + count }

/-- Some bytes were sent. -/
def sent (c : Counters) (bytes : Nat) : Counters := { c with bytesSent := c.bytesSent + bytes }

/-- Some bytes were received. -/
def received (c : Counters) (bytes : Nat) : Counters :=
  { c with bytesReceived := c.bytesReceived + bytes }

/-- A response was complete. -/
def responded (c : Counters) : Counters := { c with responses := c.responses + 1 }

/-- A probe was sent. -/
def probed (c : Counters) : Counters := { c with probesSent := c.probesSent + 1 }

/-- The connection was failed for idleness. -/
def idled (c : Counters) : Counters := { c with idleTimeouts := c.idleTimeouts + 1 }

/-- The status changed. -/
def moved (c : Counters) : Counters := { c with transitions := c.transitions + 1 }

/-- The counters with their names, in the order in which they are reported. -/
def entries (c : Counters) : List (String × Nat) :=
  [("connect_attempts", c.connectAttempts), ("connects", c.connects),
   ("connect_failures", c.connectFailures), ("connect_time_us", c.connectTime),
   ("last_connect_time_us", c.lastConnectTime), ("writes_succeeded", c.writesSucceeded),
   ("writes_failed", c.writesFailed), ("writes_cancelled", c.writesCancelled),
   ("bytes_sent", c.bytesSent), ("bytes_received", c.bytesReceived),
   ("responses", c.responses), ("probes_sent", c.probesSent),
   ("idle_timeouts", c.idleTimeouts), ("transitions", c.transitions),
   ("latency_us", c.latency), ("max_latency_us", c.maxLatency)]

/-- The counters from their reported values. -/
def ofEntries (value : String → Nat) : Counters where
  connectAttempts := value "connect_attempts"
  connects := value "connects"
  connectFailures := value "connect_failures"
  connectTime := value "connect_time_us"
  lastConnectTime := value "last_connect_time_us"
  writesSucceeded := value "writes_succeeded"
  writesFailed := value "writes_failed"
  writesCancelled := value "writes_cancelled"
  bytesSent := value "bytes_sent"
  bytesReceived := value "bytes_received"
  responses := value "responses"
  probesSent := value "probes_sent"
  idleTimeouts := value "idle_timeouts"
  transitions := value "transitions"
  latency := value "latency_us"
  maxLatency := value "max_latency_us"

/-- The mean latency of delivered writes, in whole microseconds. -/
def averageLatency? (c : Counters) : Option Duration :=
  if c.writesSucceeded = 0 then none else some (.ofMicros (c.latency / c.writesSucceeded))

/-- The mean time of successful connects, in whole microseconds. -/
def averageConnectTime? (c : Counters) : Option Duration :=
  if c.connects = 0 then none else some (.ofMicros (c.connectTime / c.connects))

/-- The writes that were delivered or failed; the sum is kept in 64 bits. -/
def resolved (c : Counters) : Nat := (c.writesSucceeded + c.writesFailed) % (maxWord + 1)

/-- The share of delivered writes among those delivered or failed, one when there are none. -/
def successRate (c : Counters) : Float :=
  if c.resolved = 0 then 1.0
  else (UInt64.ofNat c.writesSucceeded).toFloat / (UInt64.ofNat c.resolved).toFloat

/-- The counters as a JSON object on one line. -/
def json (c : Counters) : String :=
  let fields := c.entries.map fun (name, value) => s!"\"{name}\":{value}"
  "\x7b" ++ String.intercalate "," fields ++ "\x7d"

end Counters

end Uplink
