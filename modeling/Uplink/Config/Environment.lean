/-
Configurations from environment variables.

Each setting but the socket options has a variable.  A variable that is unset or makes no sense
leaves the default alone.

* `Uplink.parseWord?`, `Uplink.parseFlag?` — the values of variables;
* `Uplink.Config.ofEnvironment` — the configuration of an environment, not yet checked.
-/

import Uplink.Config

set_option relaxedAutoImplicit false
set_option autoImplicit false

namespace Uplink

/-- A number that fits 64 bits, with an optional plus sign and blanks around it. -/
def parseWord? (text : String) : Option Nat :=
  let digits :=
    match trimBlank text.toList with
    | '+' :: rest => rest
    | cs => cs
  let value := Nat.ofDigitChars 10 digits 0
  if digits ≠ [] ∧ digits.all Char.isDigit ∧ value ≤ maxWord then some value else none

/-- A truth value in one of its usual spellings, in any case and with blanks around it. -/
def parseFlag? (text : String) : Option Bool :=
  let word := String.ofList ((trimBlank text.toList).map Char.toLower)
  if word = "1" ∨ word = "true" ∨ word = "yes" ∨ word = "on" then some true
  else if word = "0" ∨ word = "false" ∨ word = "no" ∨ word = "off" then some false
  else none

namespace Config

/-- The configuration of an environment. -/
def ofEnvironment (lookup : String → Option String) : Config :=
  let millis? (name : String) : Option Duration :=
    ((lookup name).bind parseWord?).map Duration.ofMillis
  let size? (name : String) : Option Nat := (lookup name).bind parseWord?
  let base : Config := {}
  { base with
    connectTimeout := (millis? "SLUICE_CONNECT_TIMEOUT_MS").getD base.connectTimeout
    requestTimeout := millis? "SLUICE_REQUEST_TIMEOUT_MS"
    idleTime := (millis? "SLUICE_IDLE_TIME_MS").getD base.idleTime
    detectionInterval := (millis? "SLUICE_DETECTION_INTERVAL_MS").getD base.detectionInterval
    receiveBlockSize := (size? "SLUICE_RECEIVE_BLOCK_SIZE").getD base.receiveBlockSize
    maxFrameSize := (size? "SLUICE_MAX_FRAME_SIZE").getD base.maxFrameSize
    retryInterval := (millis? "SLUICE_RETRY_INTERVAL_MS").getD base.retryInterval
    expectResponse :=
      ((lookup "SLUICE_EXPECT_RESPONSE").bind parseFlag?).getD base.expectResponse }

end Config

end Uplink
