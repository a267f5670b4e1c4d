/-
Terminal styles.

A style is a list of numeric codes.  Painted text is bracketed by the codes and a reset; an empty
style leaves the text alone.

* `Uplink.Style` — the codes, in the order in which terminals are told them;
* `Uplink.Style.paint` — text in a style;
* `Uplink.Style.switch` — the change from one style to a plainer one.
-/

import Uplink.Log.Level

set_option relaxedAutoImplicit false
set_option autoImplicit false

namespace Uplink

/-- The codes of a terminal style. -/
structure Style where
  codes : List Nat
deriving DecidableEq, Repr

namespace Style

/-- No style. -/
def plain : Style := ⟨[]⟩
/-- Heavy. -/
def bold : Style := ⟨[1]⟩
/-- Faint. -/
def dim : Style := ⟨[2]⟩
/-- Slanted. -/
def italic : Style := ⟨[3]⟩
/-- Faint and slanted. -/
def dimItalic : Style := ⟨[2, 3]⟩

/-- The colour of a level. -/
def ofLevel : LogLevel → Style
  | .trace => ⟨[35]⟩
  | .debug => ⟨[34]⟩
  | .info => ⟨[32]⟩
  | .warn => ⟨[33]⟩
  | .error => ⟨[31]⟩

/-- A colour made heavy. -/
def heavy (s : Style) : Style := ⟨1 :: s.codes⟩

/-- What turns a style on. -/
def opening (s : Style) : String :=
  if s.codes = [] then ""
  else "\x1b[" ++ String.intercalate ";" (s.codes.map toString) ++ "m"

/-- What turns a style off. -/
def closing (s : Style) : String := if s.codes = [] then "" else "\x1b[0m"

/-- Text in a style. -/
def paint (s : Style) (text : String) : String := s.opening ++ text ++ s.closing

/-- Turns one style off and another, plainer one on. -/
def switch (s next : Style) : String := if s = next then "" else s.closing ++ next.opening

end Style

end Uplink
