/-
How a connection is made.

* `Uplink.Blueprint` — what a connection is made from;
* `Uplink.Blueprint.rule` — where its responses end;
* `Uplink.Blueprint.build` — the connection, if its settings can be used.
-/

import Uplink.Connection.State
import Uplink.Frame.LengthPrefixed

set_option relaxedAutoImplicit false
set_option autoImplicit false

namespace Uplink

/-- What a connection is made from. -/
structure Blueprint where
  /-- Where to connect. -/
  endpoint : Endpoint
  /-- The settings. -/
  config : Config := {}
  /-- Where responses end, if it is not the default rule. -/
  codec : Option FrameCodec := none
  /-- The name of the connection. -/
  name : Option String := none

namespace Blueprint

/-- The rule for the end of responses: by default a length in four octets stands in front, and the
settings bound it. -/
def rule (p : Blueprint) : FrameCodec :=
  p.codec.getD (LengthPrefixed.codec { maxFrame := p.config.maxFrameSize })

/-- The connection, if its settings can be used. -/
def build (p : Blueprint) (now : Instant) : Except ConfigFault Connection :=
  p.config.check.map fun config => .spawn now p.endpoint config p.rule p.name

theorem eq_spawn_of_build {p : Blueprint} {now : Instant} {c : Connection}
    (h : p.build now = .ok c) : ∃ config, c = .spawn now p.endpoint config p.rule p.name := by
  unfold build at h
  cases hcheck : p.config.check with
  | error fault =>
      rw [hcheck] at h
      cases h
  | ok config =>
      rw [hcheck] at h
      exact ⟨config, (Except.ok.inj h).symm⟩

end Blueprint

end Uplink
