/-
Which log lines are written.

A filter is a list of directives, each a verbosity for the targets that start with a given text, or
for all targets.  The directive with the longest such text decides; a line that no directive is
about is not written.

* `Uplink.LogDirective`, `Uplink.LogFilter` — directives and filters;
* `Uplink.LogFilter.parse?` — reads directives with commas between them;
* `Uplink.LogFilter.admits` — whether a line is written;
* `Uplink.LogFilter.maxVerbosity` — the most verbose level that was asked for.
-/

import Uplink.Log.Level
import Uplink.Text.Blank

set_option relaxedAutoImplicit false
set_option autoImplicit false

namespace Uplink

/-- A verbosity for the targets that start with a text. -/
structure LogDirective where
  /-- What targets start with; `none` for all targets. -/
  target : Option String
  /-- What is let through. -/
  verbosity : Verbosity
deriving DecidableEq, Repr

namespace LogDirective

/-- A character that a directive may start with. -/
def isLeading (c : Char) : Bool := c.isAlphanum ∨ c = '-' ∨ c = ':' ∨ c = '_'

/-- Reads a directive: a verbosity, a target, or a target with its verbosity.  A target alone lets
everything through. -/
def parse? (text : String) : Option LogDirective :=
  let cs := trimBlank text.toList
  match cs with
  | [] => some ⟨none, .upTo .trace⟩
  | c :: _ =>
      if !isLeading c then none
      else
        let front := String.ofList (cs.takeWhile (· ≠ '='))
        match cs.dropWhile (· ≠ '=') with
        | [] =>
            match Verbosity.parse? front with
            | some v => some ⟨none, v⟩
            | none => some ⟨some front, .upTo .trace⟩
        | [_] => some ⟨some front, .upTo .trace⟩
        | _ :: level => (Verbosity.parse? (String.ofList level)).map fun v => ⟨some front, v⟩

/-- A directive as it is written. -/
def text (d : LogDirective) : String :=
  match d.target with
  | some target => s!"{target}={d.verbosity.name}"
  | none => d.verbosity.name

/-- The directive is about a target. -/
def concerns (d : LogDirective) (target : String) : Bool :=
  match d.target with
  | some front => front.toList.isPrefixOf target.toList
  | none => true

/-- How specific a directive is: the length of its text, none at all being the least. -/
def specificity (d : LogDirective) : Nat :=
  match d.target with
  | some front => front.utf8ByteSize + 1
  | none => 0

end LogDirective

/-- Directives as they were given. -/
structure LogFilter where
  /-- The directives in the order given. -/
  given : List LogDirective
deriving DecidableEq, Repr

namespace LogFilter

/-- The filter of a single verbosity. -/
def ofVerbosity (v : Verbosity) : LogFilter := ⟨[⟨none, v⟩]⟩

/-- Reads directives with commas between them; without any, errors are let through. -/
def parse? (text : String) : Option LogFilter :=
  match ((text.splitOn ",").filter (· ≠ "")).mapM LogDirective.parse? with
  | none => none
  | some [] => some (ofVerbosity (.upTo .error))
  | some directives => some ⟨directives⟩

/-- The directives that count: of those with one target, the last. -/
def directives (f : LogFilter) : List LogDirective :=
  f.given.foldl (fun kept d => kept.filter (·.target ≠ d.target) ++ [d]) []

/-- The most verbose level that any given directive asks for. -/
def maxVerbosity (f : LogFilter) : Verbosity :=
  f.given.foldl (fun v d => if v.rank < d.verbosity.rank then d.verbosity else v) .off

/-- The most specific directive about a target. -/
def directiveFor? (f : LogFilter) (target : String) : Option LogDirective :=
  (f.directives.filter (·.concerns target)).foldl
    (fun best d =>
      match best with
      | some b => if b.specificity < d.specificity then some d else best
      | none => some d)
    none

/-- A line of this target and level is written. -/
def admits (f : LogFilter) (target : String) (level : LogLevel) : Bool :=
  match f.directiveFor? target with
  | some d => d.verbosity.admits level
  | none => false

end LogFilter

end Uplink
