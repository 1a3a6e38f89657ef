import CiWorkflow.Workflow
import CiWorkflow.Yaml.Problem
/-!
# Workflows from values

How the model is read from a YAML value. Reading is lenient: a field of the wrong type is absent,
and the only problems are a root that is no mapping, a missing mapping of jobs, and jobs that are no
mappings. A null field is absent as well.

Main definitions:

- `Workflow.ofValue`: a model in any case, and the problems;
- `passthrough`: the entries that the model does not know.
-/

namespace CiWorkflow

open Yaml (Value Entries)

/-! ## Problems -/

/-- Why a text is no workflow, or not all of one. -/
inductive ReadProblem where
  /-- It is no YAML. -/
  | malformed (problem : Yaml.Problem)
  /-- Its root is no mapping. -/
  | rootNotMapping
  /-- It has no mapping of jobs. -/
  | jobsMissing
  /-- A job is no mapping. -/
  | jobNotMapping (id : String)
deriving DecidableEq

def ReadProblem.message : ReadProblem → String
  | .malformed problem => "YAML parse error: " ++ problem.message
  | .rootNotMapping => "Invalid workflow: root must be a mapping"
  | .jobsMissing => "Workflow must have a \"jobs\" mapping"
  | .jobNotMapping id => "Job \"" ++ id ++ "\" must be a mapping"

/-- What comes of a text: a model that can be used in any case, and the problems. -/
structure Reading where
  /-- The model. -/
  workflow : Workflow
  /-- The problems, in document order. -/
  problems : List ReadProblem
deriving DecidableEq

/-- What comes of a text that cannot be used at all. -/
def Reading.failed (problem : ReadProblem) : Reading := ⟨.unusable, [problem]⟩

/-! ## Fields -/

/-- The keys of a workflow that the model knows. -/
def workflowKeys : List String := ["name", "run-name", "on", "env", "jobs"]

def jobKeys : List String :=
  ["name", "runs-on", "needs", "permissions", "env", "strategy", "steps"]

def stepKeys : List String := ["id", "name", "uses", "run", "with", "env", "shell"]

/-- The value of a field that is there and not null. -/
def field? (entries : Entries) (key : String) : Option Value :=
  (entries.get? key).filter fun v => !v.isNull

/-- The entries whose keys are not known, not even behind a tag. -/
def passthrough (known : List String) (entries : Entries) : Entries :=
  entries.filter fun e => !e.1.asString?.any known.contains

namespace ValueMap

/-- The map of a mapping. -/
def ofValue? : Value → Option ValueMap
  | .mapping entries => some (ofEntries entries)
  | _ => none

/-- The map of a mapping that has entries. -/
def ofNonEmpty? (v : Value) : Option ValueMap := nonEmpty? (ofValue? v)

end ValueMap

/-! ## Shapes -/

def OnEntry.ofValue? : Value → Option OnEntry
  | .string name => some (.event name)
  | .mapping entries => some (.configured (.ofEntries entries))
  | _ => none

/-- The triggers of a workflow. Nothing but texts, lists and mappings can describe them. -/
def On.ofValue? : Value → Option On
  | .string name => some (.event name)
  | .sequence items => some (.list (items.filterMap OnEntry.ofValue?))
  | .mapping entries => some (.map (.ofEntries entries))
  | _ => none

def RunsOn.ofValue? : Value → Option RunsOn
  | .sequence items => some (.labels (items.filterMap Value.scalarText?))
  | v => v.scalarText?.map .label

def Needs.ofValue? : Value → Option Needs
  | .sequence items => some (.many (items.filterMap Value.scalarText?))
  | v => v.scalarText?.map .one

/-- The strategy of a job, if it sets anything. -/
def Strategy.ofValue? : Value → Option Strategy
  | .mapping entries =>
    let s : Strategy :=
      { matrix := (field? entries "matrix").bind ValueMap.ofValue?
        failFast := (field? entries "fail-fast").bind Value.asBool?
        maxParallel := (field? entries "max-parallel").bind Value.asInt64? }
    -- a strategy that sets nothing is never written, so it is not read either
    if s.isUnset then none else some s
  | _ => none

/-- A step. What is no mapping becomes a placeholder with its position, counted from zero here. -/
def Step.ofValue (index : Nat) : Value → Step
  | .mapping entries =>
    { id := (field? entries "id").bind Value.scalarText?
      name := (field? entries "name").bind Value.scalarText?
      uses := (field? entries "uses").bind Value.scalarText?
      run := (field? entries "run").bind Value.scalarText?
      arguments := (field? entries "with").bind ValueMap.ofNonEmpty?
      env := (field? entries "env").bind ValueMap.ofNonEmpty?
      shell := (field? entries "shell").bind Value.scalarText?
      extra := passthrough stepKeys entries }
  | _ => .placeholder (index + 1)

def stepsOfValue : Value → List Step
  | .sequence items => items.mapIdx Step.ofValue
  | _ => []

def Job.ofEntries (entries : Entries) : Job :=
  { name := (field? entries "name").bind Value.scalarText?
    runsOn := ((field? entries "runs-on").bind RunsOn.ofValue?).getD .default
    needs := (field? entries "needs").bind Needs.ofValue?
    permissions := (field? entries "permissions").bind ValueMap.ofValue?
    env := (field? entries "env").bind ValueMap.ofValue?
    strategy := (field? entries "strategy").bind Strategy.ofValue?
    extra := passthrough jobKeys entries
    steps := ((field? entries "steps").map stepsOfValue).getD [] }

/-- A job under its id, if the entry has an id and holds a mapping. -/
def jobOfEntry? : Value × Value → Option (String × Job)
  | (key, .mapping entries) => key.scalarText?.map fun id => (id, .ofEntries entries)
  | _ => none

/-- The problem of an entry that has an id and does not hold a mapping. -/
def problemOfEntry? : Value × Value → Option ReadProblem
  | (_, .mapping _) => none
  | (key, _) => key.scalarText?.map .jobNotMapping

/-! ## Workflows -/

/-- All of a workflow but its jobs. -/
def Workflow.headOfEntries (entries : Entries) : Workflow :=
  { name := (field? entries "name").bind Value.scalarText?
    runName := (field? entries "run-name").bind Value.scalarText?
    on := ((field? entries "on").bind On.ofValue?).getD default
    env := (field? entries "env").bind ValueMap.ofNonEmpty?
    extra := passthrough workflowKeys entries }

/-- What comes of the entries of a root mapping. -/
def Workflow.ofEntries (entries : Entries) : Reading :=
  let head := headOfEntries entries
  match field? entries "jobs" with
  | some (.mapping jobs) =>
    ⟨{ head with jobs := .ofList (jobs.filterMap jobOfEntry?) }, jobs.filterMap problemOfEntry?⟩
  | _ => ⟨head, [.jobsMissing]⟩

/-- What comes of a value. -/
def Workflow.ofValue : Value → Reading
  | .mapping entries => ofEntries entries
  | _ => .failed .rootNotMapping

end CiWorkflow
