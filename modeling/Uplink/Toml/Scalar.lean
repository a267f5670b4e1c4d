/-
Numbers, truth values, dates and times of a TOML document.

A scalar without quotes is a run of letters, digits and a few signs; what it is follows from its
form alone.

* `Uplink.Toml.integer?` — decimal, hexadecimal, octal and binary integers;
* `Uplink.Toml.isFloat` — numbers with a fraction or an exponent, and the special ones;
* `Uplink.Toml.isMoment` — dates, times and their combinations;
* `Uplink.Toml.scalar?` — the value of a run.
-/

import Uplink.Data
import Uplink.Toml.Text

set_option relaxedAutoImplicit false
set_option autoImplicit false

namespace Uplink.Toml

/-! ### Digits -/

/-- The value of a digit in a base up to sixteen. -/
def digitIn? (base : Nat) (c : Char) : Option Nat :=
  match hexDigit? c with
  | some v => if v < base then some v else none
  | none => none

/-- A run of digits in which single underscores may stand between digits. -/
def digits? (base : Nat) : List Char → Option (List Nat)
  | [] => none
  | [c] => (digitIn? base c).map fun v => [v]
  | c :: '_' :: rest =>
      match digitIn? base c, digits? base rest with
      | some v, some vs => some (v :: vs)
      | _, _ => none
  | c :: rest =>
      match digitIn? base c, digits? base rest with
      | some v, some vs => some (v :: vs)
      | _, _ => none

/-- The number that digits stand for. -/
def ofDigits (base : Nat) (digits : List Nat) : Nat :=
  digits.foldl (fun acc v => acc * base + v) 0

/-- Decimal digits without a superfluous zero in front. -/
def decimal? (cs : List Char) : Option Nat :=
  match digits? 10 cs with
  | some (0 :: _ :: _) => none
  | some digits => some (ofDigits 10 digits)
  | none => none

/-- The sign in front of a number, and the number. -/
def splitSign : List Char → Bool × List Char
  | '-' :: rest => (true, rest)
  | '+' :: rest => (false, rest)
  | cs => (false, cs)

/-- An integer.  Only decimal ones have a sign. -/
def integer? (cs : List Char) : Option Int :=
  match cs with
  | '0' :: 'x' :: rest => (digits? 16 rest).map fun digits => (ofDigits 16 digits : Int)
  | '0' :: 'o' :: rest => (digits? 8 rest).map fun digits => (ofDigits 8 digits : Int)
  | '0' :: 'b' :: rest => (digits? 2 rest).map fun digits => (ofDigits 2 digits : Int)
  | _ =>
      let (negative, rest) := splitSign cs
      (decimal? rest).map fun n => if negative then -(n : Int) else n

/-! ### Numbers that are no integers -/

/-- A number with a fraction, an exponent or both, or one of the special numbers. -/
def isFloat (cs : List Char) : Bool :=
  let (_, rest) := splitSign cs
  let isExponent (c : Char) : Bool := c = 'e' ∨ c = 'E'
  let mantissa := rest.takeWhile fun c => !isExponent c
  let exponentOk :=
    match rest.dropWhile fun c => !isExponent c with
    | [] => true
    | _ :: exponent => (digits? 10 (splitSign exponent).2).isSome
  let whole := mantissa.takeWhile (· ≠ '.')
  let fractionOk :=
    match mantissa.dropWhile (· ≠ '.') with
    | [] => true
    | _ :: fraction => (digits? 10 fraction).isSome
  rest = ['i', 'n', 'f'] ∨ rest = ['n', 'a', 'n'] ∨
    ((decimal? whole).isSome && fractionOk && exponentOk)

/-! ### Dates and times -/

/-- The number written with exactly `count` digits, and what follows. -/
def fixed? (count : Nat) (cs : List Char) : Option (Nat × List Char) :=
  let front := cs.take count
  if front.length = count ∧ front.all Char.isDigit then
    some (Nat.ofDigitChars 10 front 0, cs.drop count)
  else none

/-- Removes an expected character. -/
def expect? (c : Char) : List Char → Option (List Char)
  | d :: rest => if d = c then some rest else none
  | [] => none

/-- The days of a month. -/
def daysIn (year month : Nat) : Nat :=
  if month = 2 then
    if year % 4 = 0 ∧ (year % 100 ≠ 0 ∨ year % 400 = 0) then 29 else 28
  else if month = 4 ∨ month = 6 ∨ month = 9 ∨ month = 11 then 30
  else 31

/-- Reads a date. -/
def date? (cs : List Char) : Option (List Char) := do
  let (year, cs) ← fixed? 4 cs
  let cs ← expect? '-' cs
  let (month, cs) ← fixed? 2 cs
  let cs ← expect? '-' cs
  let (day, cs) ← fixed? 2 cs
  if 1 ≤ month ∧ month ≤ 12 ∧ 1 ≤ day ∧ day ≤ daysIn year month then some cs else none

/-- Reads a time of day; the seconds may be left out. -/
def time? (cs : List Char) : Option (List Char) := do
  let (hour, cs) ← fixed? 2 cs
  let cs ← expect? ':' cs
  let (minute, cs) ← fixed? 2 cs
  if 23 < hour ∨ 59 < minute then none
  match cs with
  | ':' :: cs =>
      let (second, cs) ← fixed? 2 cs
      if 60 < second then none
      match cs with
      | '.' :: cs =>
          let fraction := cs.takeWhile Char.isDigit
          if fraction = [] then none else some (cs.dropWhile Char.isDigit)
      | cs => some cs
  | cs => some cs

/-- Reads an offset from universal time. -/
def offset? (cs : List Char) : Option (List Char) :=
  match cs with
  | 'Z' :: rest | 'z' :: rest => some rest
  | '+' :: rest | '-' :: rest => do
      let (hour, cs) ← fixed? 2 rest
      let cs ← expect? ':' cs
      let (minute, cs) ← fixed? 2 cs
      if 23 < hour ∨ 59 < minute then none else some cs
  | _ => none

/-- A date, a time, or a date and a time with or without an offset. -/
def isMoment (cs : List Char) : Bool :=
  match date? cs with
  | some [] => true
  | some (c :: rest) =>
      (c = 'T' ∨ c = 't' ∨ c = ' ') &&
        match time? rest with
        | some [] => true
        | some rest => offset? rest = some []
        | none => false
  | none => time? cs = some []

/-! ### Scalars -/

/-- The value of a run of characters without quotes. -/
def scalar? (cs : List Char) : Option Data :=
  if cs = ['t', 'r', 'u', 'e'] then some (.bool true)
  else if cs = ['f', 'a', 'l', 's', 'e'] then some (.bool false)
  else
    match integer? cs with
    | some n => some (.int n)
    | none =>
        if isFloat cs then some (.real (String.ofList cs))
        else if isMoment cs then some (.moment (String.ofList cs))
        else none

/-- A character of a scalar without quotes. -/
def isScalarChar (c : Char) : Bool :=
  c.isAlphanum ∨ c = '_' ∨ c = '-' ∨ c = '+' ∨ c = '.' ∨ c = ':'

/-- Reads a scalar without quotes.  A date may be separated from its time by one blank. -/
def scalar (cs : List Char) : Read Data :=
  let front := cs.takeWhile isScalarChar
  let rest := cs.dropWhile isScalarChar
  match rest with
  | ' ' :: c :: more =>
      if date? front = some [] ∧ c.isDigit then
        let back := (c :: more).takeWhile isScalarChar
        (scalar? (front ++ ' ' :: back)).map fun v => (v, (c :: more).dropWhile isScalarChar)
      else (scalar? front).map fun v => (v, rest)
  | _ => (scalar? front).map fun v => (v, rest)

end Uplink.Toml
