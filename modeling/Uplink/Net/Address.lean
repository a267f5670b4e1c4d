/-
Addresses of hosts and sockets.

A host is given as text.  It is a literal address of either family, or the one name that every
machine has for itself; no other name is known.

* `Uplink.IpAddress` — an address of either family, with its canonical `text`;
* `Uplink.Ipv4.parse?`, `Uplink.Ipv6.parse?` — the literals of the families;
* `Uplink.IpAddress.ofHost?` — the address of a host;
* `Uplink.SocketAddress` — an address with a port.
-/

import Uplink.Text.Digit

set_option relaxedAutoImplicit false
set_option autoImplicit false

namespace Uplink

/-- The parts of a text between the occurrences of a character. -/
def splitAtChar (mark : Char) : List Char → List (List Char)
  | [] => [[]]
  | c :: rest =>
      if c = mark then [] :: splitAtChar mark rest
      else
        match splitAtChar mark rest with
        | [] => [[c]]
        | part :: parts => (c :: part) :: parts

/-! ### The first family -/

namespace Ipv4

/-- Reads an octet: up to three decimal digits, without a leading zero. -/
def octet? (digits : List Char) : Option Nat :=
  if digits = [] ∨ 3 < digits.length ∨ !digits.all Char.isDigit then none
  else if 1 < digits.length ∧ digits.head? = some '0' then none
  else
    let value := Nat.ofDigitChars 10 digits 0
    if value < 256 then some value else none

/-- Reads four octets with points between them. -/
def parse? (text : List Char) : Option (List Nat) :=
  match (splitAtChar '.' text).mapM octet? with
  | some [a, b, c, d] => some [a, b, c, d]
  | _ => none

/-- Four octets with points between them. -/
def text (octets : List Nat) : String := String.intercalate "." (octets.map toString)

end Ipv4

/-! ### The second family -/

namespace Ipv6

/-- Reads a group: up to four hexadecimal digits. -/
def group? (digits : List Char) : Option Nat :=
  if digits = [] ∨ 4 < digits.length then none
  else (digits.mapM hexDigit?).map fun values => values.foldl (fun n v => n * 16 + v) 0

/-- Reads groups of which the last two may be written as an address of the first family. -/
def groupsOf? : List (List Char) → Option (List Nat)
  | [] => some []
  | [last] =>
      match Ipv4.parse? last with
      | some [a, b, c, d] => some [a * 256 + b, c * 256 + d]
      | _ => (group? last).map ([·])
  | first :: rest => do
      let group ← group? first
      let groups ← groupsOf? rest
      some (group :: groups)

/-- Reads groups with colons between them, or nothing at all. -/
def groups? (text : List Char) : Option (List Nat) :=
  if text = [] then some [] else groupsOf? (splitAtChar ':' text)

/-- The text before and after the first two colons in a row. -/
def cut? : List Char → Option (List Char × List Char)
  | ':' :: ':' :: rest => some ([], rest)
  | c :: rest => (cut? rest).map fun (front, back) => (c :: front, back)
  | [] => none

/-- Reads eight groups; two colons in a row stand for at least one group of zero. -/
def parse? (text : List Char) : Option (List Nat) :=
  match cut? text with
  | none => (groups? text).filter (·.length = 8)
  | some (front, back) => do
      let first ← groups? front
      let last ← groups? back
      if first.length + last.length < 8 ∧ !front.contains '.' then
        some (first ++ List.replicate (8 - first.length - last.length) 0 ++ last)
      else none

/-- How many zeros a list of groups starts with. -/
def zeros (groups : List Nat) : Nat := (groups.takeWhile (· = 0)).length

/-- The first longest run of zeros: where it starts and how long it is. -/
def longestRun (groups : List Nat) : Nat × Nat :=
  (List.range groups.length).foldl
    (fun best start =>
      let length := zeros (groups.drop start)
      if best.2 < length then (start, length) else best)
    (0, 0)

/-- Groups with colons between them. -/
def joined (groups : List Nat) : String :=
  String.intercalate ":" (groups.map fun g => String.ofList (Nat.toDigits 16 g))

/-- Eight groups, a run of at least two zeros being left out; an address of the first family that is
embedded in the second is written as such. -/
def text (groups : List Nat) : String :=
  match groups with
  | [0, 0, 0, 0, 0, 0xffff, high, low] =>
      "::ffff:" ++ Ipv4.text [high / 256, high % 256, low / 256, low % 256]
  | _ =>
      let (start, length) := longestRun groups
      if 1 < length then joined (groups.take start) ++ "::" ++ joined (groups.drop (start + length))
      else joined groups

end Ipv6

/-! ### Addresses -/

/-- The address of a host. -/
inductive IpAddress
  /-- Four octets. -/
  | v4 (octets : List Nat)
  /-- Eight groups of sixteen bits. -/
  | v6 (groups : List Nat)
deriving DecidableEq, Repr

namespace IpAddress

/-- The address by which a machine reaches itself. -/
def loopback : IpAddress := .v4 [127, 0, 0, 1]

/-- The address of a host, if it has one. -/
def ofHost? (host : String) : Option IpAddress :=
  if host = "localhost" then some loopback
  else
    match Ipv4.parse? host.toList with
    | some octets => some (.v4 octets)
    | none => (Ipv6.parse? host.toList).map .v6

/-- The canonical text of an address. -/
def text : IpAddress → String
  | v4 octets => Ipv4.text octets
  | v6 groups => Ipv6.text groups

end IpAddress

/-- An address with a port. -/
structure SocketAddress where
  /-- The address of the host. -/
  ip : IpAddress
  /-- The port. -/
  port : Nat
deriving DecidableEq, Repr

/-- The text of an address with a port; the second family stands in brackets. -/
def SocketAddress.text (a : SocketAddress) : String :=
  match a.ip with
  | .v4 octets => s!"{Ipv4.text octets}:{a.port}"
  | .v6 groups => s!"[{Ipv6.text groups}]:{a.port}"

end Uplink
