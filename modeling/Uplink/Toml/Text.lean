/-
Blanks, comments, keys and strings of a TOML document.

Every reader takes the characters that are left and returns what it read together with the rest, or
`none` when the document is not well formed at this point.

* `Uplink.Toml.skipBlank`, `Uplink.Toml.skipLines` — blanks on a line, and whole blank lines;
* `Uplink.Toml.endOfLine` — the end of a line after a value or a header;
* `Uplink.Toml.string` — a string in any of the four quotings;
* `Uplink.Toml.key` — a dotted key.
-/

import Uplink.Text.Digit

set_option relaxedAutoImplicit false
set_option autoImplicit false

namespace Uplink.Toml

/-- What a reader returns: what it read and the characters left. -/
abbrev Read (α : Type) := Option (α × List Char)

/-! ### Blanks and line ends -/

/-- A blank inside a line. -/
def isSpace (c : Char) : Bool := c = ' ' ∨ c = '\t'

/-- A control character that may stand neither in a comment nor in a string. -/
def isControl (c : Char) : Bool := (c.toNat < 0x20 ∧ c ≠ '\t') ∨ c.toNat = 0x7F

/-- Skips blanks inside a line. -/
def skipBlank (cs : List Char) : List Char := cs.dropWhile isSpace

/-- Takes a line end, if there is one here. -/
def newline? : List Char → Option (List Char)
  | '\n' :: rest => some rest
  | '\r' :: '\n' :: rest => some rest
  | _ => none

/-- Skips blanks and a comment up to the end of the line. -/
def skipComment (cs : List Char) : Option (List Char) :=
  match skipBlank cs with
  | '#' :: rest => go rest
  | rest => some rest
where
  go : List Char → Option (List Char)
    | [] => some []
    | '\n' :: rest => some ('\n' :: rest)
    | '\r' :: '\n' :: rest => some ('\r' :: '\n' :: rest)
    | c :: rest => if isControl c then none else go rest

/-- Skips blanks, comments and line ends. -/
def skipLines : Nat → List Char → Option (List Char)
  | 0, _ => none
  | fuel + 1, cs =>
      match skipComment cs with
      | none => none
      | some rest =>
          match newline? rest with
          | some rest => skipLines fuel rest
          | none => some rest

/-- The end of a line, or of the document, after blanks and a comment. -/
def endOfLine (cs : List Char) : Option (List Char) :=
  match skipComment cs with
  | none => none
  | some [] => some []
  | some rest => newline? rest

/-! ### Strings -/

/-- The character whose code point is written with `count` hexadecimal digits. -/
def codePoint (count : Nat) (cs : List Char) : Read Char :=
  let digits := cs.take count
  match digits.mapM hexDigit? with
  | none => none
  | some values =>
      let n := values.foldl (fun acc v => acc * 16 + v) 0
      if digits.length = count ∧ n.isValidChar then some (Char.ofNat n, cs.drop count) else none

/-- The character of an escape, after its backslash. -/
def escape : List Char → Read Char
  | 'b' :: rest => some ('\x08', rest)
  | 't' :: rest => some ('\t', rest)
  | 'n' :: rest => some ('\n', rest)
  | 'f' :: rest => some ('\x0c', rest)
  | 'r' :: rest => some ('\r', rest)
  | 'e' :: rest => some ('\x1b', rest)
  | '"' :: rest => some ('"', rest)
  | '\\' :: rest => some ('\\', rest)
  | 'x' :: rest => codePoint 2 rest
  | 'u' :: rest => codePoint 4 rest
  | 'U' :: rest => codePoint 8 rest
  | _ => none

/-- Puts a character in front of what was read. -/
def prependTo (c : Char) : Read (List Char) → Read (List Char)
  | some (cs, rest) => some (c :: cs, rest)
  | none => none

/-- The rest of a string between double quotes, on one line. -/
def basic : Nat → List Char → Read (List Char)
  | 0, _ => none
  | _, [] => none
  | _ + 1, '"' :: rest => some ([], rest)
  | fuel + 1, '\\' :: rest =>
      match escape rest with
      | some (c, rest) => prependTo c (basic fuel rest)
      | none => none
  | fuel + 1, c :: rest => if isControl c then none else prependTo c (basic fuel rest)

/-- The rest of a string between single quotes, on one line. -/
def literal : List Char → Read (List Char)
  | [] => none
  | '\'' :: rest => some ([], rest)
  | c :: rest => if isControl c then none else prependTo c (literal rest)

/-- The end of a string of several lines: three quotes, with up to two more that belong to it. -/
def closing? (quote : Char) (cs : List Char) : Read (List Char) :=
  let run := (cs.takeWhile (· = quote)).length
  if run < 3 then none
  else
    let own := min (run - 3) 2
    some (List.replicate own quote, cs.drop (own + 3))

/-- Skips the blank rest of a line after a backslash, and all blanks and line ends after it. -/
def continuation? (cs : List Char) : Option (List Char) :=
  (newline? (skipBlank cs)).map fun rest =>
    rest.dropWhile fun c => isSpace c ∨ c = '\n' ∨ c = '\r'

/-- The rest of a string of several lines between double quotes. -/
def multiBasic : Nat → List Char → Read (List Char)
  | 0, _ => none
  | _, [] => none
  | fuel + 1, c :: rest =>
      match closing? '"' (c :: rest) with
      | some result => some result
      | none =>
          match newline? (c :: rest) with
          | some after => prependTo '\n' (multiBasic fuel after)
          | none =>
              if c = '\\' then
                match continuation? rest with
                | some after => multiBasic fuel after
                | none =>
                    match escape rest with
                    | some (e, after) => prependTo e (multiBasic fuel after)
                    | none => none
              else if isControl c then none
              else prependTo c (multiBasic fuel rest)

/-- The rest of a string of several lines between single quotes. -/
def multiLiteral : Nat → List Char → Read (List Char)
  | 0, _ => none
  | _, [] => none
  | fuel + 1, c :: rest =>
      match closing? '\'' (c :: rest) with
      | some result => some result
      | none =>
          match newline? (c :: rest) with
          | some after => prependTo '\n' (multiLiteral fuel after)
          | none => if isControl c then none else prependTo c (multiLiteral fuel rest)

/-- Drops the line end right after the opening of a string of several lines. -/
def dropFirstNewline (cs : List Char) : List Char := (newline? cs).getD cs

/-- A string on one line. -/
def lineString (cs : List Char) : Read (List Char) :=
  match cs with
  | '"' :: rest => basic (rest.length + 1) rest
  | '\'' :: rest => literal rest
  | _ => none

/-- A string in any quoting. -/
def string (cs : List Char) : Read (List Char) :=
  match cs with
  | '"' :: '"' :: '"' :: rest => multiBasic (rest.length + 1) (dropFirstNewline rest)
  | '\'' :: '\'' :: '\'' :: rest => multiLiteral (rest.length + 1) (dropFirstNewline rest)
  | _ => lineString cs

/-! ### Keys -/

/-- A character of a key without quotes. -/
def isBare (c : Char) : Bool := c.isAlphanum ∨ c = '_' ∨ c = '-'

/-- One part of a key. -/
def keyPart (cs : List Char) : Read String :=
  match cs with
  | '"' :: _ | '\'' :: _ => (lineString cs).map fun (name, rest) => (String.ofList name, rest)
  | _ =>
      let name := cs.takeWhile isBare
      if name = [] then none else some (String.ofList name, cs.dropWhile isBare)

/-- A key: parts with dots between them. -/
def key : Nat → List Char → Read (List String)
  | 0, _ => none
  | fuel + 1, cs =>
      match keyPart (skipBlank cs) with
      | none => none
      | some (name, rest) =>
          match skipBlank rest with
          | '.' :: rest => (key fuel rest).map fun (names, rest) => (name :: names, rest)
          | rest => some ([name], rest)

end Uplink.Toml
