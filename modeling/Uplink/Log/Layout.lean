/-
The layouts of log lines.

There are four: one object per line for programs, and a plain, a compact and an indented layout for
people.  Which parts a line has is switched on and off one by one.

* `Uplink.LogFormat` — the layouts;
* `Uplink.LogParts` — the switches;
* `Uplink.LogRecord.object` — the layout for programs;
* `Uplink.LogRecord.plain`, `Uplink.LogRecord.compact`, `Uplink.LogRecord.pretty` — those for
  people.
-/

import Uplink.Log.Record
import Uplink.Log.Style

set_option relaxedAutoImplicit false
set_option autoImplicit false

namespace Uplink

/-- The layouts of log lines. -/
inductive LogFormat
  | json
  | plain
  | pretty
  | compact
deriving DecidableEq, Repr

namespace LogFormat

/-- Every layout. -/
def all : List LogFormat := [json, plain, pretty, compact]

/-- The name of a layout in configurations. -/
def name : LogFormat → String
  | json => "json"
  | plain => "plain"
  | pretty => "pretty"
  | compact => "compact"

/-- The name of a layout in programs. -/
def identifier : LogFormat → String
  | json => "Json"
  | plain => "Plain"
  | pretty => "Pretty"
  | compact => "Compact"

/-- The layout with a given name. -/
def ofName? (name : String) : Option LogFormat := all.find? (·.name = name)

end LogFormat

/-- The parts of a line that can be switched. -/
structure LogParts where
  targets : Bool := true
  threadIds : Bool := false
  fileLine : Bool := false
  spans : Bool := false
  colors : Bool := false
deriving DecidableEq, Repr

/-- The style, if lines are coloured. -/
def LogParts.style (p : LogParts) (s : Style) : Style := if p.colors then s else .plain

/-- Text that is there only when a switch is on. -/
def textIf (condition : Bool) (text : String) : String := if condition then text else ""

namespace LogRecord

/-! ### For programs -/

/-- A span as an object. -/
def spanObject (s : LogSpan) : Data :=
  .table (s.fields.map (fun (k, v) => (k, v.data)) ++ [("name", .text s.name)])

/-- An event as an object, without its time. -/
def object (parts : LogParts) (origin : LogOrigin) (r : LogRecord) : Data :=
  let message := r.message.toList.map fun m => ("message", Data.text m)
  let span :=
    match r.span with
    | some s =>
        if parts.spans then
          [("span", spanObject s), ("spans", .list (if r.inside then [spanObject s] else []))]
        else []
    | none => []
  .table <|
    [("level", .text r.level.label),
     ("fields", .table (message ++ r.fields.map fun (k, v) => (k, v.data)))] ++
    (if parts.targets then [("target", .text r.target)] else []) ++
    (if parts.fileLine then [("filename", .text origin.file), ("line_number", .text origin.line)]
     else []) ++
    span ++
    (if parts.threadIds then [("threadId", .text s!"ThreadId({origin.thread})")] else [])

/-! ### On one line for people -/

/-- Fields as `name=value`, with blanks between them. -/
def inlineFields (parts : LogParts) (fields : LogFields) : List String :=
  fields.map fun (k, v) =>
    (parts.style .italic).paint k ++ (parts.style .dim).paint "=" ++ v.print

/-- The message and the fields of an event. -/
def inlineText (parts : LogParts) (r : LogRecord) : String :=
  String.intercalate " " (r.message.toList ++ inlineFields parts r.fields)

/-- Time, level and thread. -/
def inlineHead (parts : LogParts) (origin : LogOrigin) (r : LogRecord) : String :=
  (parts.style .dim).paint origin.time ++ " " ++
  (parts.style (.ofLevel r.level)).paint r.level.paddedLabel ++ " " ++
  textIf parts.threadIds
    ("ThreadId(" ++ "".pushn '0' (2 - (toString origin.thread).length) ++
      toString origin.thread ++ ") ")

/-- The target of an event. -/
def inlineTarget (parts : LogParts) (r : LogRecord) : String :=
  textIf parts.targets
    ((parts.style .dim).paint r.target ++ (parts.style .dim).paint ":" ++ " ")

/-- The plain layout: the span stands with its fields in front of the target. -/
def plain (parts : LogParts) (origin : LogOrigin) (r : LogRecord) : String :=
  let bold := parts.style .bold
  let dim := parts.style .dim
  let span :=
    match r.span with
    | some s =>
        bold.paint s.name ++
        textIf (s.fields ≠ [])
          (bold.paint "\x7b" ++ String.intercalate " " (inlineFields parts s.fields) ++
            bold.paint "\x7d") ++
        dim.paint ":" ++ " "
    | none => ""
  let place :=
    textIf parts.fileLine
      (dim.paint origin.file ++ dim.paint ":" ++ dim.paint (origin.line ++ ":") ++ " ")
  inlineHead parts origin r ++ span ++ inlineTarget parts r ++ place ++ inlineText parts r

/-- The compact layout: the span stands in front of the target, its fields at the end. -/
def compact (parts : LogParts) (origin : LogOrigin) (r : LogRecord) : String :=
  let span :=
    match r.span with
    | some s => (parts.style .bold).paint s.name ++ ": "
    | none => ""
  let spanFields :=
    match r.span with
    | some s =>
        textIf (s.fields ≠ [])
          (" " ++ (parts.style .dim).paint (String.intercalate " " (inlineFields parts s.fields)))
    | none => ""
  inlineHead parts origin r ++ span ++ inlineTarget parts r ++ inlineText parts r ++ spanFields

/-! ### Indented, on several lines -/

/-- Fields as `name: value`, the names heavy in the colour of the text around them. -/
def listedFields (parts : LogParts) (around : Style) (fields : LogFields) : List String :=
  let heavy := parts.style around.heavy
  fields.map fun (k, v) => heavy.opening ++ k ++ heavy.switch around ++ ": " ++ v.print

/-- The indented layout: the event, then where it happened, then the span, then an empty line. -/
def pretty (parts : LogParts) (origin : LogOrigin) (r : LogRecord) : List String :=
  let colour := parts.style (.ofLevel r.level)
  let heavy := parts.style (Style.ofLevel r.level).heavy
  let note := parts.style .dimItalic
  let target := textIf parts.targets (heavy.opening ++ r.target ++ heavy.switch colour ++ ":")
  let message := r.message.toList.map fun m => colour.opening ++ m
  let first :=
    "  " ++ (parts.style .dim).paint origin.time ++ " " ++
    colour.paint r.level.paddedLabel ++ " " ++ target ++ " " ++
    String.intercalate ", " (message ++ listedFields parts colour r.fields) ++ colour.closing
  let place :=
    (if parts.fileLine then [note.paint "at" ++ s!" {origin.file}:{origin.line}"] else []) ++
    (if parts.threadIds then [note.paint "on" ++ s!" ThreadId({origin.thread})"] else [])
  let span :=
    match r.span with
    | some s =>
        ["    " ++ note.paint "in" ++ " " ++ textIf parts.targets (s.target ++ "::") ++
          (parts.style .bold).paint s.name ++
          textIf (s.fields ≠ [])
            (" " ++ note.paint "with" ++ " " ++
              String.intercalate ", " (listedFields parts .plain s.fields))]
    | none => []
  [first] ++ (if place = [] then [] else ["    " ++ String.intercalate " " place]) ++ span ++ [""]

end LogRecord

end Uplink
