/-
How important a log line is.

* `Uplink.LogLevel` — the levels, with their names in configurations and in lines;
* `Uplink.Verbosity` — how much is let through: nothing, or everything down to a level.
-/

set_option relaxedAutoImplicit false
set_option autoImplicit false

namespace Uplink

/-- The level of a log line. -/
inductive LogLevel
  | trace
  | debug
  | info
  | warn
  | error
deriving DecidableEq, Repr

namespace LogLevel

/-- Every level, the most verbose one first. -/
def all : List LogLevel := [trace, debug, info, warn, error]

/-- The name of a level in configurations and filters. -/
def name : LogLevel → String
  | trace => "trace"
  | debug => "debug"
  | info => "info"
  | warn => "warn"
  | error => "error"

/-- The name of a level in log lines. -/
def label : LogLevel → String
  | trace => "TRACE"
  | debug => "DEBUG"
  | info => "INFO"
  | warn => "WARN"
  | error => "ERROR"

/-- The name of a level in programs. -/
def identifier : LogLevel → String
  | trace => "Trace"
  | debug => "Debug"
  | info => "Info"
  | warn => "Warn"
  | error => "Error"

/-- The level with a given name. -/
def ofName? (name : String) : Option LogLevel := all.find? (·.name = name)

/-- How verbose a level is; errors are the least verbose. -/
def rank : LogLevel → Nat
  | error => 1
  | warn => 2
  | info => 3
  | debug => 4
  | trace => 5

/-- A label filled with blanks in front to five characters. -/
def paddedLabel (level : LogLevel) : String :=
  "".pushn ' ' (5 - level.label.length) ++ level.label

end LogLevel

/-- What is let through. -/
inductive Verbosity
  /-- Nothing. -/
  | off
  /-- A level and everything less verbose. -/
  | upTo (level : LogLevel)
deriving DecidableEq, Repr

namespace Verbosity

/-- The name of a verbosity. -/
def name : Verbosity → String
  | off => "off"
  | upTo level => level.name

/-- How much is let through. -/
def rank : Verbosity → Nat
  | off => 0
  | upTo level => level.rank

/-- A line of this level is let through. -/
def admits (v : Verbosity) (level : LogLevel) : Bool := level.rank ≤ v.rank

/-- The verbosity with a given rank. -/
def ofRank? : Nat → Option Verbosity
  | 0 => some off
  | 1 => some (upTo .error)
  | 2 => some (upTo .warn)
  | 3 => some (upTo .info)
  | 4 => some (upTo .debug)
  | 5 => some (upTo .trace)
  | _ => none

/-- The verbosity written as a name in any case, or as a rank.  No text at all means errors. -/
def parse? (text : String) : Option Verbosity :=
  let word := String.ofList (text.toList.map Char.toLower)
  if text.toList ≠ [] ∧ text.toList.all Char.isDigit then
    ofRank? (Nat.ofDigitChars 10 text.toList 0)
  else if word = "" then some (upTo .error)
  else if word = "off" then some off
  else (LogLevel.ofName? word).map upTo

end Verbosity

end Uplink
