/-
Reading a TOML document.

* `Uplink.Toml.value` — a value of any kind, in lists and braces to any depth;
* `Uplink.Toml.line` — a key with its value, or a header;
* `Uplink.Toml.parse` — a document as a tree, or `none` when it is not well formed.
-/

import Uplink.Toml.Scalar
import Uplink.Toml.Table

set_option relaxedAutoImplicit false
set_option autoImplicit false

namespace Uplink.Toml

/-! ### Values -/

mutual

/-- A value. -/
def value : Nat → List Char → Read Data
  | 0, _ => none
  | fuel + 1, cs =>
      match cs with
      | '"' :: _ | '\'' :: _ =>
          (string cs).map fun (text, rest) => (.text (String.ofList text), rest)
      | '[' :: rest => items fuel rest
      | '\x7b' :: rest => (entries fuel [] rest).map fun (t, rest) => (Table.data t, rest)
      | _ => scalar cs

/-- The items of a list after its opening bracket or a comma. -/
def items : Nat → List Char → Read Data
  | 0, _ => none
  | fuel + 1, cs =>
      match skipLines (cs.length + 1) cs with
      | none => none
      | some (']' :: rest) => some (.list [], rest)
      | some rest =>
          match value fuel rest with
          | none => none
          | some (item, rest) =>
              match skipLines (rest.length + 1) rest with
              | some (']' :: rest) => some (.list [item], rest)
              | some (',' :: rest) =>
                  match items fuel rest with
                  | some (.list more, rest) => some (.list (item :: more), rest)
                  | _ => none
              | _ => none

/-- The entries of a table in braces, after the opening brace or a comma. -/
def entries : Nat → Table → List Char → Read Table
  | 0, _, _ => none
  | fuel + 1, t, cs =>
      match skipLines (cs.length + 1) cs with
      | none => none
      | some ('\x7d' :: rest) => some (t, rest)
      | some rest =>
          match key (rest.length + 1) rest with
          | some (path, '=' :: rest) =>
              match value fuel (skipBlank rest) with
              | none => none
              | some (data, rest) =>
                  match t.insertDotted true path data, skipLines (rest.length + 1) rest with
                  | some t, some ('\x7d' :: rest) => some (t, rest)
                  | some t, some (',' :: rest) => entries fuel t rest
                  | _, _ => none
          | _ => none

end

/-! ### Lines -/

/-- A document that is being read: the tree so far and the table that keys are added to. -/
structure Progress where
  /-- The tree so far. -/
  root : Table := []
  /-- The keys of the last header. -/
  current : List String := []

/-- A header: its keys, with the last one apart. -/
def header (cs : List Char) : Read (List String × String) :=
  match key (cs.length + 1) cs with
  | some (path, rest) =>
      match path.getLast? with
      | some name => some ((path.dropLast, name), rest)
      | none => none
  | none => none

/-- A line that is neither blank nor a comment. -/
def line (p : Progress) (cs : List Char) : Read Progress :=
  match cs with
  | '[' :: '[' :: rest =>
      match header rest with
      | some ((path, name), ']' :: ']' :: rest) =>
          match p.root.appendAt path name, endOfLine rest with
          | some root, some rest => some (⟨root, path ++ [name]⟩, rest)
          | _, _ => none
      | _ => none
  | '[' :: rest =>
      match header rest with
      | some ((path, name), ']' :: rest) =>
          match p.root.openAt path name, endOfLine rest with
          | some root, some rest => some (⟨root, path ++ [name]⟩, rest)
          | _, _ => none
      | _ => none
  | _ =>
      match key (cs.length + 1) cs with
      | some (path, '=' :: rest) =>
          match value (rest.length + 1) (skipBlank rest) with
          | some (data, rest) =>
              match p.root.insertAt p.current path data, endOfLine rest with
              | some root, some rest => some (⟨root, p.current⟩, rest)
              | _, _ => none
          | none => none
      | _ => none

/-- The lines of a document. -/
def lines : Nat → Progress → List Char → Option Progress
  | 0, _, _ => none
  | fuel + 1, p, cs =>
      match skipLines (cs.length + 1) cs with
      | none => none
      | some [] => some p
      | some rest =>
          match line p rest with
          | some (p, rest) => lines fuel p rest
          | none => none

/-- Reads a document.  A byte order mark in front of it is skipped. -/
def parse (document : String) : Option Data :=
  let cs :=
    match document.toList with
    | '\ufeff' :: rest => rest
    | cs => cs
  (lines (cs.length + 1) {} cs).map fun p => p.root.data

end Uplink.Toml
