/-
What a log line says, before it is laid out.

* `Uplink.LogValue` — the value of a field;
* `Uplink.LogSpan` — a stretch of work that lines belong to;
* `Uplink.LogRecord` — an event with its level, target, message, fields and span;
* `Uplink.LogOrigin` — where and when an event happened.
-/

import Uplink.Data
import Uplink.Log.Level

set_option relaxedAutoImplicit false
set_option autoImplicit false

namespace Uplink

/-- The value of a field. -/
inductive LogValue
  | int (value : Int)
  | bool (value : Bool)
  /-- A text, quoted in lines for people. -/
  | text (value : String)
  /-- The printed form of some value, never quoted. -/
  | shown (value : String)
deriving DecidableEq, Repr

namespace LogValue

/-- A character of a quoted text.  Control characters are given by their code points. -/
def quoteChar (c : Char) : String :=
  if c = '"' then "\\\""
  else if c = '\\' then "\\\\"
  else if c = '\n' then "\\n"
  else if c = '\t' then "\\t"
  else if c = '\r' then "\\r"
  else if c = '\x00' then "\\0"
  else if c.toNat < 0x20 ∨ c.toNat = 0x7F then
    "\\u\x7b" ++ String.ofList (Nat.toDigits 16 c.toNat) ++ "\x7d"
  else c.toString

/-- A value in a line for people. -/
def print : LogValue → String
  | int value => toString value
  | bool value => if value then "true" else "false"
  | text value => "\"" ++ String.join (value.toList.map quoteChar) ++ "\""
  | shown value => value

/-- A value in a line for programs. -/
def data : LogValue → Data
  | int value => .int value
  | bool value => .bool value
  | text value | shown value => .text value

end LogValue

/-- The fields of an event or a span, in order. -/
abbrev LogFields := List (String × LogValue)

/-- A stretch of work. -/
structure LogSpan where
  name : String
  target : String
  level : LogLevel
  fields : LogFields
deriving DecidableEq, Repr

/-- An event. -/
structure LogRecord where
  level : LogLevel
  target : String
  message : Option String
  fields : LogFields
  /-- The span the event belongs to. -/
  span : Option LogSpan := none
  /-- The span is still being worked in. -/
  inside : Bool := true
deriving DecidableEq, Repr

/-- Where and when an event happened. -/
structure LogOrigin where
  time : String
  file : String
  line : String
  /-- The number of the thread. -/
  thread : Nat
deriving DecidableEq, Repr

end Uplink
