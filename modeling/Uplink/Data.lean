/-
Structured data.

Configurations are read from trees of plain values, whatever text such a tree was written in.  An
integer and a number with a fraction or an exponent are different things, even when they are equal.

* `Uplink.Data` — a tree of values;
* `Uplink.Data.field?` — the value of a key in a table;
* `Uplink.Data.size` — a measure for recursion over a tree.
-/

set_option relaxedAutoImplicit false
set_option autoImplicit false

namespace Uplink

/-- A tree of plain values. -/
inductive Data
  /-- No value. -/
  | null
  /-- A truth value. -/
  | bool (value : Bool)
  /-- A whole number. -/
  | int (value : Int)
  /-- A number with a fraction or an exponent, or one outside the range of integers, as written. -/
  | real (text : String)
  /-- A text. -/
  | text (value : String)
  /-- A date, a time or both, as written. -/
  | moment (text : String)
  /-- A sequence. -/
  | list (items : List Data)
  /-- A table with distinct keys. -/
  | table (entries : List (String × Data))
deriving Repr, Inhabited

/-- The value of a key in a table; `none` when the key is missing or there is no table. -/
def Data.field? (data : Data) (key : String) : Option Data :=
  match data with
  | .table entries => entries.lookup key
  | _ => none

end Uplink
