/-
Durations inside messages.

A message gives a duration in the largest of the units `s`, `ms`, `µs` and `ns` that it reaches,
with a decimal fraction where needed: `20s`, `1.5s`, `300ms`, `1.000001ms`, `7ns`.  The fraction is
exact and has no trailing zeros.

* `Uplink.decimalFraction` — the digits after the point;
* `Uplink.Duration.spoken` — the text of a duration.
-/

import Uplink.Duration

set_option relaxedAutoImplicit false
set_option autoImplicit false

namespace Uplink

/-- The decimal fraction `value / 10 ^ places` with its point and without trailing zeros; nothing at
all for zero. -/
def decimalFraction (places value : Nat) : String :=
  let digits := Nat.toDigits 10 value
  let padded := List.replicate (places - digits.length) '0' ++ digits
  let kept := (padded.reverse.dropWhile (· = '0')).reverse
  if kept = [] then "" else "." ++ String.ofList kept

/-- The text of a duration inside a message. -/
def Duration.spoken (d : Duration) : String :=
  if d.secs ≠ 0 then toString d.secs ++ decimalFraction 9 d.subsecNanos ++ "s"
  else if 1000000 ≤ d.ns then
    toString (d.ns / 1000000) ++ decimalFraction 6 (d.ns % 1000000) ++ "ms"
  else if 1000 ≤ d.ns then toString (d.ns / 1000) ++ decimalFraction 3 (d.ns % 1000) ++ "µs"
  else toString d.ns ++ "ns"

end Uplink
