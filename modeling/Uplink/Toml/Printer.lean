/-
Writing a TOML document.

A table is written as its plain values, one per line, followed by its tables, each under a header of
its own after a blank line.

* `Uplink.Toml.printValue?` — a plain value;
* `Uplink.Toml.print` — a document.
-/

import Uplink.Data

set_option relaxedAutoImplicit false
set_option autoImplicit false

namespace Uplink.Toml

/-- A character of a string between double quotes. -/
def printChar (c : Char) : String :=
  if c = '"' then "\\\""
  else if c = '\\' then "\\\\"
  else if c = '\n' then "\\n"
  else if c = '\t' then "\\t"
  else if c = '\r' then "\\r"
  else c.toString

/-- A text between double quotes. -/
def printText (text : String) : String := "\"" ++ String.join (text.toList.map printChar) ++ "\""

/-- A plain value; tables and missing values have no such form. -/
def printValue? : Data → Option String
  | .bool value => some (if value then "true" else "false")
  | .int value => some (toString value)
  | .real text => some text
  | .text value => some (printText value)
  | .moment text => some text
  | .null | .list _ | .table _ => none

/-- The plain values of a table, one per line. -/
def printPlain (entries : List (String × Data)) : String :=
  String.join (entries.filterMap fun (key, data) =>
    (printValue? data).map fun text => s!"{key} = {text}\n")

mutual

/-- A document, or the part of it below the keys of a header. -/
def printAt (path : String) : Data → String
  | .table entries => printPlain entries ++ printTables path entries
  | _ => ""

/-- The tables of a table, each under its header. -/
def printTables (path : String) : List (String × Data) → String
  | [] => ""
  | (key, .table sub) :: rest =>
      let name := if path = "" then key else s!"{path}.{key}"
      s!"\n[{name}]\n" ++ printAt name (.table sub) ++ printTables path rest
  | _ :: rest => printTables path rest

end

/-- Writes a document. -/
def print (data : Data) : String := printAt "" data

end Uplink.Toml
