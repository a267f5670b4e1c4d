/-
The notation of durations in configurations.

A duration is written as a whole number followed by a unit, `500ms`, `20s`, `1m`; without a unit the
number counts seconds.  Blanks around the text and between number and unit are allowed, signs,
fractions and upper-case units are not.  A number has to fit 64 bits; minutes and hours beyond
64-bit seconds are cut to the largest number of seconds.

* `Uplink.TimeUnit` — the units, their symbols and their sizes;
* `Uplink.Duration.parse` — reads the notation, or says what is wrong with it;
* `Uplink.Duration.format` — writes a duration in the coarsest unit that divides it;
* `Uplink.Duration.formatUnit`, `Uplink.Duration.formatCount` — the unit and the number written.
-/

import Uplink.Duration
import Uplink.Text.Blank

set_option relaxedAutoImplicit false
set_option autoImplicit false

namespace Uplink

/-- The units of the duration notation. -/
inductive TimeUnit
  | nanos
  | micros
  | millis
  | secs
  | mins
  | hours
deriving DecidableEq, Repr

namespace TimeUnit

/-- How a unit is written. -/
def symbol : TimeUnit → String
  | nanos => "ns"
  | micros => "us"
  | millis => "ms"
  | secs => "s"
  | mins => "m"
  | hours => "h"

/-- The unit that a symbol stands for; no symbol at all means seconds. -/
def ofSymbol? (symbol : String) : Option TimeUnit :=
  if symbol = "ns" then some nanos
  else if symbol = "us" then some micros
  else if symbol = "ms" then some millis
  else if symbol = "" ∨ symbol = "s" then some secs
  else if symbol = "m" then some mins
  else if symbol = "h" then some hours
  else none

/-- The span of `count` units.  Minutes and hours are converted to 64-bit seconds and stop at the
largest such number. -/
def toDuration (unit : TimeUnit) (count : Nat) : Duration :=
  match unit with
  | nanos => .ofNanos count
  | micros => .ofMicros count
  | millis => .ofMillis count
  | secs => .ofSecs count
  | mins => .ofSecs (min (count * 60) maxWord)
  | hours => .ofSecs (min (count * 3600) maxWord)

@[simp] theorem ofSymbol?_symbol (unit : TimeUnit) : ofSymbol? unit.symbol = some unit := by
  cases unit <;> decide

end TimeUnit

/-- What can be wrong with the text of a duration. -/
inductive NotationError
  /-- The text does not start with a number that fits 64 bits. -/
  | number (text : String)
  /-- The number is followed by something that is no unit. -/
  | unit (symbol text : String)
deriving DecidableEq, Repr

/-- The wording of an error in the text of a duration. -/
def NotationError.message : NotationError → String
  | number text => s!"invalid duration `{text}`"
  | unit symbol text => s!"unknown duration unit `{symbol}` in `{text}`"

namespace Duration

/-! ### Reading -/

/-- Reads the duration notation. -/
def parse (text : String) : Except NotationError Duration :=
  let trimmed := trimBlank text.toList
  let digits := trimmed.takeWhile Char.isDigit
  let symbol := String.ofList (trimBlank (trimmed.dropWhile Char.isDigit))
  let count := Nat.ofDigitChars 10 digits 0
  if digits = [] ∨ maxWord < count then
    .error (.number (String.ofList trimmed))
  else
    match TimeUnit.ofSymbol? symbol with
    | some unit => .ok (unit.toDuration count)
    | none => .error (.unit symbol (String.ofList trimmed))

/-! ### Writing -/

/-- The coarsest unit that divides a duration; the empty span is written in seconds. -/
def formatUnit (d : Duration) : TimeUnit :=
  if d.ns % 1000 ≠ 0 then .nanos
  else if d.micros % 1000 ≠ 0 then .micros
  else if d.millis % 1000 ≠ 0 then .millis
  else if d.secs ≠ 0 ∧ d.secs % 3600 = 0 then .hours
  else if d.secs ≠ 0 ∧ d.secs % 60 = 0 then .mins
  else .secs

/-- A duration counted in a unit. -/
def formatCount (d : Duration) : TimeUnit → Nat
  | .nanos => d.ns
  | .micros => d.micros
  | .millis => d.millis
  | .secs => d.secs
  | .mins => d.secs / 60
  | .hours => d.secs / 3600

/-- Writes a duration in the coarsest unit that divides it. -/
def format (d : Duration) : String :=
  toString (d.formatCount d.formatUnit) ++ d.formatUnit.symbol

end Duration

end Uplink
