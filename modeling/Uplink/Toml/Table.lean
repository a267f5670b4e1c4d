/-
Tables of a TOML document while it is being read.

Who opened a table decides who may add to it.  A header opens a table once; it may come after tables
below it, which open it in passing.  A dotted key opens the tables on its way and adds to those that
dotted keys have opened, never to those of a header.  A table written in braces is complete.

* `Uplink.Toml.Node` — a value, a table or a list of tables, with its origin;
* `Uplink.Toml.Table.insertDotted` — adds a value under a dotted key;
* `Uplink.Toml.Table.openAt`, `Uplink.Toml.Table.appendAt` — what headers do;
* `Uplink.Toml.Table.data` — the finished tree, tables sorted by key.
-/

import Uplink.Data

set_option relaxedAutoImplicit false
set_option autoImplicit false

namespace Uplink.Toml

/-- Who opened a table. -/
inductive Origin
  /-- A header of its own. -/
  | header
  /-- A header of a table below. -/
  | passing
  /-- A dotted key. -/
  | dotted
deriving DecidableEq, Repr

/-- A part of a document that is being read. -/
inductive Node
  /-- A complete value. -/
  | value (data : Data)
  /-- A table that may grow. -/
  | table (origin : Origin) (entries : List (String × Node))
  /-- A list of tables, the last one of which may grow. -/
  | tables (done : List (List (String × Node))) (last : List (String × Node))
deriving Inhabited

/-- The entries of a table. -/
abbrev Table := List (String × Node)

namespace Table

/-- Replaces the entry of a key. -/
def replace (t : Table) (key : String) (node : Node) : Table :=
  t.map fun entry => if entry.1 = key then (key, node) else entry

/-- Adds a value under a dotted key.  A single key adds to a table only if the table is `growing`:
the one the keys started from, or one opened by a dotted key.  The way there may also lead through
tables that headers opened in passing or appended to a list. -/
def insertDotted (growing : Bool) : List String → Data → Table → Option Table
  | [], _, _ => none
  | [key], data, t =>
      match t.lookup key with
      | none => if growing then some (t ++ [(key, .value data)]) else none
      | some _ => none
  | key :: path, data, t =>
      match t.lookup key with
      | none => (insertDotted true path data []).map fun sub => t ++ [(key, .table .dotted sub)]
      | some (.table .header _) => none
      | some (.table origin sub) =>
          (insertDotted (origin = .dotted) path data sub).map fun sub =>
            t.replace key (.table origin sub)
      | some (.tables done last) =>
          (insertDotted false path data last).map fun last => t.replace key (.tables done last)
      | some (.value _) => none

/-- Applies a change to the table that the keys lead to, opening tables on the way in passing. -/
def changeAt (change : Table → Option Table) : List String → Table → Option Table
  | [], t => change t
  | key :: path, t =>
      match t.lookup key with
      | none => (changeAt change path []).map fun sub => t ++ [(key, .table .passing sub)]
      | some (.table origin sub) =>
          (changeAt change path sub).map fun sub => t.replace key (.table origin sub)
      | some (.tables done last) =>
          (changeAt change path last).map fun last => t.replace key (.tables done last)
      | some (.value _) => none

/-- Opens a table by its own header. -/
def openAt (path : List String) (name : String) (t : Table) : Option Table :=
  changeAt (fun parent =>
    match parent.lookup name with
    | none => some (parent ++ [(name, .table .header [])])
    | some (.table .passing sub) => some (parent.replace name (.table .header sub))
    | some _ => none) path t

/-- Appends an empty table to a list of tables. -/
def appendAt (path : List String) (name : String) (t : Table) : Option Table :=
  changeAt (fun parent =>
    match parent.lookup name with
    | none => some (parent ++ [(name, .tables [] [])])
    | some (.tables done last) => some (parent.replace name (.tables (done ++ [last]) []))
    | some _ => none) path t

/-- Adds a value under a dotted key to the table that a header has opened. -/
def insertAt (header key : List String) (data : Data) (t : Table) : Option Table :=
  changeAt (insertDotted true key data) header t

end Table

/-! ### The finished tree -/

/-- Inserts an entry into entries that are sorted by key. -/
def insertSorted (entry : String × Data) : List (String × Data) → List (String × Data)
  | [] => [entry]
  | other :: rest =>
      if entry.1 < other.1 then entry :: other :: rest else other :: insertSorted entry rest

/-- A table with its entries sorted by key. -/
def sortedTable (entries : List (String × Data)) : Data :=
  .table (entries.foldr insertSorted [])

mutual

/-- The tree that a part of a document stands for. -/
def Node.data : Node → Data
  | .value data => data
  | .table _ entries => sortedTable (entriesData entries)
  | .tables done last => .list (tablesData done ++ [sortedTable (entriesData last)])

/-- The trees of the entries of a table. -/
def entriesData : List (String × Node) → List (String × Data)
  | [] => []
  | (key, node) :: rest => (key, node.data) :: entriesData rest

/-- The trees of a list of tables. -/
def tablesData : List (List (String × Node)) → List Data
  | [] => []
  | entries :: rest => sortedTable (entriesData entries) :: tablesData rest

end

/-- The tree that a table stands for. -/
def Table.data (t : Table) : Data := sortedTable (entriesData t)

end Uplink.Toml
