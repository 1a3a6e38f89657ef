import CiWorkflow.Lint
import CiWorkflow.Lint.Grammar
import CiWorkflow.Workflow
/-!
# Checks of jobs

Every job is checked by itself: its runner, the jobs it needs, its strategy and its steps, in this
order. Of the other jobs only the ids count.
-/

namespace CiWorkflow.Lint

open Yaml (Value)

def jobPath (id : String) : String := "jobs." ++ id

/-! ## Runners -/

/-- The runner labels that are common. -/
def knownRunners : List String :=
  ["ubuntu-latest", "ubuntu-24.04", "ubuntu-22.04", "ubuntu-20.04", "ubuntu-24.04-arm",
    "ubuntu-22.04-arm", "windows-latest", "windows-2025", "windows-2022", "windows-2019",
    "macos-latest", "macos-15", "macos-14", "macos-13", "macos-12", "self-hosted"]

/-- Whether a piece of text stands somewhere in a text. -/
def holds (piece : List Char) : List Char → Bool
  | [] => piece.isEmpty
  | c :: rest => piece.isPrefixOf (c :: rest) || holds piece rest

/-- Whether a label tells nothing wrong: it is known, belongs to a runner of one's own, or is
computed when the workflow runs. -/
def isTolerated (options : LintOptions) (label : String) : Bool :=
  label.startsWith "self-hosted" || knownRunners.contains label ||
    options.extraRunnerLabels.contains label || label.toList.contains '[' ||
    holds ['$', '{', '{'] label.toList

def runnerWarning (id label : String) : Diagnostic :=
  .warning (jobPath id ++ ".runs-on")
    ("Unknown runner label: \"" ++ label ++ "\". Common runners: " ++
      ", ".intercalate knownRunners)

/-- Whether a job has a runner, and whether its labels are known. -/
def checkRunner (options : LintOptions) (id : String) (runsOn : RunsOn) : List Diagnostic :=
  if runsOn.isEmpty then
    [.error (jobPath id ++ ".runs-on")
      ("Job \"" ++ id ++ "\" is missing required field \"runs-on\"")]
  else (runsOn.toList.filter fun l => !isTolerated options l).map (runnerWarning id)

/-! ## Needs -/

def missingJobError (id need : String) : Diagnostic :=
  .error (jobPath id ++ ".needs")
    ("Job \"" ++ id ++ "\" depends on job \"" ++ need ++ "\" which does not exist")

/-- Whether the jobs that a job needs are there. -/
def checkNeeds (ids : List String) (id : String) (needs : List String) : List Diagnostic :=
  (needs.filter fun n => !ids.contains n).map (missingJobError id)

/-! ## Strategies -/

/-- Whether a matrix variable has values. -/
def hasValues (v : Value) : Bool := v.asSequence?.any fun items => !items.isEmpty

/-- Whether a matrix has variables, and every variable has values. -/
def checkMatrix (id : String) (matrix : ValueMap) : List Diagnostic :=
  let path := jobPath id ++ ".strategy.matrix"
  report matrix.isEmpty
    (.warning path
      ("Job \"" ++ id ++ "\" has an empty matrix. Remove strategy or add matrix variables.")) ++
  (matrix.entries.filter fun e => !hasValues e.2).map fun e =>
    .error (path ++ "." ++ e.1)
      ("Matrix variable \"" ++ e.1 ++ "\" in job \"" ++ id ++ "\" must be a non-empty list")

/-- Whether a job multiplies to something. -/
def checkStrategy (id : String) (strategy : Option Strategy) : List Diagnostic :=
  match strategy with
  | none => []
  | some s =>
    (s.matrix.map (checkMatrix id)).getD [] ++
    report (s.maxParallel.any (· < 1))
      (.error (jobPath id ++ ".strategy.max-parallel")
        ("max-parallel in job \"" ++ id ++ "\" must be at least 1"))

/-! ## Steps -/

def isGiven (text : Option String) : Bool := text.any fun s => !s.isEmpty

/-- Whether a step does one thing, and whether the action it uses can be one. -/
def checkStep (id : String) (index : Nat) (s : Step) : List Diagnostic :=
  let path := jobPath id ++ ".steps[" ++ toString index ++ "]"
  let name := "Step " ++ toString (index + 1) ++ " in job \"" ++ id ++ "\""
  let runs := isGiven s.run
  let uses := isGiven s.uses
  report (!runs && !uses) (.error path (name ++ " must have either \"run\" or \"uses\"")) ++
  report (runs && uses) (.error path (name ++ " cannot have both \"run\" and \"uses\"")) ++
  report (uses && !s.uses.all isActionReference)
    (.warning (path ++ ".uses")
      ("Invalid action reference format: \"" ++ s.uses.getD "" ++
        "\". Expected format: \"owner/repo@ref\""))

/-- Whether a job has steps, and all checks of them. -/
def checkSteps (id : String) (steps : List Step) : List Diagnostic :=
  if steps.isEmpty then
    [.warning (jobPath id ++ ".steps") ("Job \"" ++ id ++ "\" has no steps")]
  else (steps.mapIdx (checkStep id)).flatten

/-! ## Jobs -/

/-- All checks of one job, where the ids of all jobs are given. -/
def checkJob (options : LintOptions) (ids : List String) (id : String) (j : Job) :
    List Diagnostic :=
  checkRunner options id j.runsOn ++ checkNeeds ids id j.needsList ++
    checkStrategy id j.strategy ++ checkSteps id j.steps

end CiWorkflow.Lint
