/-
Scripts and their reports.

A script is a list of steps, each one instruction or several that are done before anything runs.
After each step everything runs until nothing moves, and a report says what has come about.

* `Uplink.ScriptStep` — a step of a script;
* `Uplink.Report` — what a step has brought about;
* `Uplink.Bench.run` — the reports of a script.
-/

import Uplink.Bench.Script

set_option relaxedAutoImplicit false
set_option autoImplicit false

namespace Uplink

/-- A step of a script. -/
inductive ScriptStep
  /-- One instruction. -/
  | single (instruction : Instruction)
  /-- Instructions that are done before anything runs. -/
  | batch (instructions : List Instruction)

/-- The answers of a step. -/
inductive StepAnswer
  | single (answer : Answer)
  | batch (answers : List Answer)

/-- What a step has brought about. -/
structure Report where
  /-- The answers of its instructions. -/
  answer : StepAnswer
  /-- The clock. -/
  now : Instant
  /-- The connections that are not in a pool; `none` for one that its owner gave up. -/
  singles : List (Option Connection)
  /-- The connections in the pool, if there is one. -/
  pool : Option (List (PoolHandle × Connection))
  /-- The receipts that were resolved. -/
  resolved : List (String × Outcome)
  /-- The changes of status. -/
  moves : List String
  /-- The lines for the log. -/
  lines : List String
  /-- The options that were set, or refused. -/
  settings : List OptionSetting
  /-- The number of streams that are served by hand. -/
  peers : Nat

namespace Bench

/-- A change of status on one line. -/
def moveText (move : Status × Status × Event) : String :=
  s!"{move.1.name}>{move.2.1.name}:{move.2.2.name}"

/-- The outcomes of receipts that nobody looks at in person, in order; such receipts are thrown
away. -/
def collect (b : Bench) : List (String × Outcome) × Bench :=
  (List.range b.submissions.length).foldl
    (fun (found, b) ticket =>
      match b.submissions[ticket]? with
      | some s =>
          if s.isHeld ∧ !s.isManual then
            match b.pollReceipt ticket with
            | (some outcome, b) => (found ++ [(s.name, outcome)], b.discard ticket)
            | (none, b) => (found, b)
          else (found, b)
      | none => (found, b))
    ([], b)

/-- Lines in the order in which they came; sorted when they may come from several connections. -/
def inOrder (b : Bench) (lines : List String) : List String :=
  if 1 < b.fleet.length then lines.mergeSort (fun a b => a ≤ b) else lines

/-- The report after a step, and the bench that goes on. -/
def report (b : Bench) (answer : StepAnswer) : Report × Bench :=
  let b := { b with peers := b.peers ++ b.arrivals, arrivals := [] }
  let (resolved, b) := b.collect
  ({ answer
     now := b.now
     singles := b.singles.map fun number => (b.fleet[number]?).filter (·.isHeld)
     pool := b.pool.map fun pool =>
       pool.entries.filterMap fun (h, number) => (b.fleet[number]?).map (h, ·)
     resolved
     moves := b.inOrder (b.journal.moves.map moveText)
     lines := b.inOrder (b.journal.notices.map (·.line))
     settings := b.journal.settings
     peers := b.peers.length },
   { b with journal := {} })

/-- Does several things, one after the other. -/
def performAll (b : Bench) : List Instruction → Bench × List Answer
  | [] => (b, [])
  | instruction :: rest =>
      let (b, answer) := b.perform instruction
      let (b, answers) := performAll b rest
      (b, answer :: answers)

/-- One step of a script. -/
def step (b : Bench) : ScriptStep → Report × Bench
  | .single instruction =>
      let (b, answer) := b.perform instruction
      b.settle.report (.single answer)
  | .batch instructions =>
      let (b, answers) := b.performAll instructions
      b.settle.report (.batch answers)

/-- The reports of a script. -/
def run (b : Bench) : List ScriptStep → List Report
  | [] => []
  | s :: rest =>
      let (report, b) := b.step s
      report :: run b rest

end Bench

end Uplink
