/-
Digits of sixteen: `0` to `9` and, in either case, `a` to `f`.
-/

set_option relaxedAutoImplicit false
set_option autoImplicit false

namespace Uplink

/-- The value of a hexadecimal digit. -/
def hexDigit? (c : Char) : Option Nat :=
  let n := c.toNat
  if 0x30 ≤ n ∧ n ≤ 0x39 then some (n - 0x30)
  else if 0x41 ≤ n ∧ n ≤ 0x46 then some (n - 0x37)
  else if 0x61 ≤ n ∧ n ≤ 0x66 then some (n - 0x57)
  else none

end Uplink
