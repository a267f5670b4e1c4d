/-
The configuration of a connection.

* `Uplink.Config` — the settings, each with its default;
* `Uplink.Config.check` — whether a connection can run with them;
* `Uplink.Config.Valid` — the same as a statement.
-/

import Uplink.Error
import Uplink.SocketOptions

set_option relaxedAutoImplicit false
set_option autoImplicit false

namespace Uplink

/-- The settings of a connection. -/
structure Config where
  /-- The time allowed for a connect. -/
  connectTimeout : Duration := .ofSecs 20
  /-- The time allowed for a write and its response, if limited. -/
  requestTimeout : Option Duration := none
  /-- The time without activity after which a free connection is probed. -/
  idleTime : Duration := .ofSecs 60
  /-- The time between ticks of the idle detector. -/
  detectionInterval : Duration := .ofSecs 10
  /-- Writes wait for a response unless they say otherwise. -/
  expectResponse : Bool := true
  /-- The first size of the receive block. -/
  receiveBlockSize : Nat := 64 * 1024
  /-- The longest response. -/
  maxFrameSize : Nat := 4 * 1024 * 1024
  /-- The time after a failure before a pool connects again. -/
  retryInterval : Duration := .ofSecs 1
  /-- The options of the socket. -/
  socket : SocketOptions := {}
deriving DecidableEq, Repr

namespace Config

/-- The first reason why a connection cannot run with the settings. -/
def fault? (c : Config) : Option ConfigFault :=
  if c.connectTimeout = .zero then some (.zero "connect_timeout")
  else if c.idleTime = .zero then some (.zero "idle_time")
  else if c.detectionInterval = .zero then some (.zero "detection_interval")
  else if c.requestTimeout = some .zero then some .zeroRequestTimeout
  else if c.receiveBlockSize = 0 then some .zeroReceiveBlock
  else if c.maxFrameSize < c.receiveBlockSize then
    some (.ceilingBelowBlock c.maxFrameSize c.receiveBlockSize)
  else none

/-- The settings, if a connection can run with them. -/
def check (c : Config) : Except ConfigFault Config :=
  match c.fault? with
  | some fault => .error fault
  | none => .ok c

/-- Settings that a connection can run with. -/
structure Valid (c : Config) : Prop where
  connectTimeout : c.connectTimeout ≠ .zero
  idleTime : c.idleTime ≠ .zero
  detectionInterval : c.detectionInterval ≠ .zero
  requestTimeout : c.requestTimeout ≠ some .zero
  receiveBlockSize : c.receiveBlockSize ≠ 0
  maxFrameSize : c.receiveBlockSize ≤ c.maxFrameSize

theorem fault?_eq_none_iff {c : Config} : c.fault? = none ↔ c.Valid := by
  unfold fault?
  constructor
  · intro h
    split at h
    · cases h
    split at h
    · cases h
    split at h
    · cases h
    split at h
    · cases h
    split at h
    · cases h
    split at h
    · cases h
    next h₁ h₂ h₃ h₄ h₅ h₆ => exact ⟨h₁, h₂, h₃, h₄, h₅, Nat.not_lt.1 h₆⟩
  · rintro ⟨h₁, h₂, h₃, h₄, h₅, h₆⟩
    simp [h₁, h₂, h₃, h₄, h₅, Nat.not_lt.2 h₆]

end Config

end Uplink
