/-
White space of Unicode text.

The property White_Space holds of twenty-five code points; core's `Char.isWhitespace` knows only the
ASCII ones among them.  `Uplink.trimBlank` removes such characters from both ends of a text.

* `Uplink.isBlank` — the property;
* `Uplink.trimBlank` — a text without blanks at its ends;
* `Uplink.isBlank_of_isWhitespace` — every character that core calls white space is blank.
-/

set_option relaxedAutoImplicit false
set_option autoImplicit false

namespace Uplink

/-- The code points with the property White_Space. -/
def isBlank (c : Char) : Bool :=
  let n := c.toNat
  (9 ≤ n && n ≤ 13) || n == 0x20 || n == 0x85 || n == 0xA0 || n == 0x1680 ||
  (0x2000 ≤ n && n ≤ 0x200A) || n == 0x2028 || n == 0x2029 || n == 0x202F || n == 0x205F ||
  n == 0x3000

/-- The characters of a text from its first to its last non-blank one. -/
def trimBlank (cs : List Char) : List Char :=
  ((cs.dropWhile isBlank).reverse.dropWhile isBlank).reverse

theorem isBlank_of_isWhitespace (c : Char) (h : c.isWhitespace = true) : isBlank c = true := by
  simp only [Char.isWhitespace, Bool.or_eq_true, decide_eq_true_eq] at h
  rcases h with ((rfl | rfl) | rfl) | rfl <;> decide

end Uplink
