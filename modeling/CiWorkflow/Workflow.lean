import CiWorkflow.KeyedList
import CiWorkflow.Yaml.Value
/-!
# Workflows

The model of a CI workflow: what triggers it, and its jobs with their steps. Fields that may be
written in several shapes keep the shape in which they were written. What the model does not know is
carried along in the `extra` entries of a workflow, a job or a step.

Main definitions:

- `Workflow`, `Job`, `Step`: the model;
- `Job.needsList`: the jobs that a job depends on, whatever the shape of the field;
- `Workflow.normalize`: a workflow without the empty fields that are never written;
- `Workflow.same`: equality that takes mappings as sets of pairs.
-/

namespace CiWorkflow

open Yaml (Value Entries)

/-- Values under text keys, in document order. -/
abbrev ValueMap := KeyedList Value

namespace ValueMap

/-- The map of those entries of a mapping that have a scalar for a key. -/
def ofEntries (entries : Entries) : ValueMap :=
  .ofList (entries.filterMap fun e => e.1.scalarText?.map fun key => (key, e.2))

/-- The mapping of a map. -/
def toEntries (m : ValueMap) : Entries := m.entries.map fun e => (.string e.1, e.2)

/-- The mapping of a map, as a value. -/
def toValue (m : ValueMap) : Value := .mapping m.toEntries

/-- Whether two maps are the same up to order. -/
def same (a b : ValueMap) : Bool := a.sameBy Value.same b

end ValueMap

/-! ## Triggers as they are written -/

/-- An element of a list of triggers. -/
inductive OnEntry where
  /-- The name of an event. -/
  | event (name : String)
  /-- Events with their configuration. -/
  | configured (map : ValueMap)
deriving DecidableEq

/-- The triggers of a workflow, in one of three shapes. -/
inductive On where
  /-- The name of one event. -/
  | event (name : String)
  | list (entries : List OnEntry)
  /-- Events with their configuration. -/
  | map (map : ValueMap)
deriving DecidableEq

/-- No triggers at all. -/
instance : Inhabited On := ⟨.map .empty⟩

/-! ## Steps -/

/-- A step of a job: an action that is used, or a command that is run. -/
structure Step where
  id : Option String := none
  /-- The display name. -/
  name : Option String := none
  /-- The action. -/
  uses : Option String := none
  /-- The command. -/
  run : Option String := none
  /-- The arguments of the action. -/
  arguments : Option ValueMap := none
  env : Option ValueMap := none
  /-- The shell that runs the command. -/
  shell : Option String := none
  /-- All other entries. -/
  extra : Entries := []
deriving DecidableEq, Inhabited

namespace Step

/-- A step that only runs a command. -/
def ofCommand (command : String) : Step := { run := some command }

/-- A step in place of an entry that is no mapping, by its position, counted from one. -/
def placeholder (position : Nat) : Step :=
  { name := some ("Step " ++ toString position), run := some "" }

end Step

/-! ## Jobs -/

/-- The runner of a job. -/
inductive RunsOn where
  /-- One label. -/
  | label (label : String)
  /-- All labels that a runner has to have. -/
  | labels (labels : List String)
deriving DecidableEq

namespace RunsOn

/-- The runner of a job that names none. -/
def default : RunsOn := .label "ubuntu-latest"

instance : Inhabited RunsOn := ⟨default⟩

def toList : RunsOn → List String
  | .label l => [l]
  | .labels ls => ls

def isEmpty : RunsOn → Bool
  | .label l => l.isEmpty
  | .labels ls => ls.isEmpty

/-- The labels for display. -/
def text (r : RunsOn) : String := ", ".intercalate r.toList

end RunsOn

/-- The jobs that a job depends on. -/
inductive Needs where
  /-- One job. -/
  | one (id : String)
  | many (ids : List String)
deriving DecidableEq

namespace Needs

/-- The ids in a list. -/
def toList : Needs → List String
  | .one id => [id]
  | .many ids => ids

/-- The shortest shape for a list of ids. -/
def ofList : List String → Option Needs
  | [] => none
  | [id] => some (.one id)
  | ids => some (.many ids)

@[simp] theorem toList_ofList (ids : List String) :
    ((ofList ids).map toList).getD [] = ids := by
  match ids with
  | [] => rfl
  | [_] => rfl
  | _ :: _ :: _ => rfl

end Needs

/-- How a job is multiplied. -/
structure Strategy where
  /-- Variables with their values, which should be lists. -/
  matrix : Option ValueMap := none
  /-- Whether one failure stops all. -/
  failFast : Option Bool := none
  /-- How many may run at once. -/
  maxParallel : Option Int64 := none
deriving DecidableEq, Inhabited

def Strategy.isUnset (s : Strategy) : Bool :=
  s.matrix.isNone && s.failFast.isNone && s.maxParallel.isNone

/-- A job: steps on a runner. -/
structure Job where
  /-- The display name. -/
  name : Option String := none
  /-- The runner. -/
  runsOn : RunsOn := .default
  /-- The jobs it depends on. -/
  needs : Option Needs := none
  /-- The permissions of its token. -/
  permissions : Option ValueMap := none
  env : Option ValueMap := none
  /-- How it is multiplied. -/
  strategy : Option Strategy := none
  /-- All other entries. -/
  extra : Entries := []
  steps : List Step := []
deriving DecidableEq, Inhabited

/-- The ids of the jobs that a job depends on, as they are listed. -/
def Job.needsList (j : Job) : List String := (j.needs.map Needs.toList).getD []

/-! ## Workflows -/

structure Workflow where
  /-- The display name. -/
  name : Option String := none
  /-- The title of its runs. -/
  runName : Option String := none
  /-- Its triggers. -/
  on : On := default
  env : Option ValueMap := none
  /-- All other entries. -/
  extra : Entries := []
  /-- The jobs by their ids, in document order. -/
  jobs : KeyedList Job := .empty
deriving DecidableEq, Inhabited

namespace Workflow

/-- The workflow that stands for a text that cannot be used at all. -/
def unusable : Workflow := { name := some "" }

/-- The ids that a job lists as its needs; a job that is not there needs nothing. -/
def needsOf (w : Workflow) (id : String) : List String :=
  ((w.jobs.get? id).map Job.needsList).getD []

end Workflow

/-! ## Normal form -/

/-- A map that has entries. -/
def ValueMap.nonEmpty? (m : Option ValueMap) : Option ValueMap := m.filter fun m => !m.isEmpty

/-- A step without empty maps. -/
def Step.normalize (s : Step) : Step :=
  { s with arguments := ValueMap.nonEmpty? s.arguments, env := ValueMap.nonEmpty? s.env }

/-- A job without a strategy that sets nothing. -/
def Job.normalize (j : Job) : Job :=
  { j with strategy := j.strategy.filter fun s => !s.isUnset, steps := j.steps.map Step.normalize }

/-- A workflow without the empty fields that are never written. -/
def Workflow.normalize (w : Workflow) : Workflow :=
  { w with env := ValueMap.nonEmpty? w.env, jobs := w.jobs.mapValues Job.normalize }

/-! ## Sameness -/

def sameOption {α : Type} (same : α → α → Bool) : Option α → Option α → Bool
  | none, none => true
  | some a, some b => same a b
  | _, _ => false

def sameList {α : Type} (same : α → α → Bool) : List α → List α → Bool
  | [], [] => true
  | a :: as, b :: bs => same a b && sameList same as bs
  | _, _ => false

/-- Whether two mappings are the same up to order. -/
def sameEntries (a b : Entries) : Bool := Value.same (.mapping a) (.mapping b)

def OnEntry.same : OnEntry → OnEntry → Bool
  | .event a, .event b => a == b
  | .configured a, .configured b => a.same b
  | _, _ => false

def On.same : On → On → Bool
  | .event a, .event b => a == b
  | .list a, .list b => sameList OnEntry.same a b
  | .map a, .map b => a.same b
  | _, _ => false

def Strategy.same (a b : Strategy) : Bool :=
  sameOption ValueMap.same a.matrix b.matrix && a.failFast == b.failFast &&
    a.maxParallel == b.maxParallel

def Step.same (a b : Step) : Bool :=
  a.id == b.id && a.name == b.name && a.uses == b.uses && a.run == b.run &&
    sameOption ValueMap.same a.arguments b.arguments && sameOption ValueMap.same a.env b.env &&
    a.shell == b.shell && sameEntries a.extra b.extra

def Job.same (a b : Job) : Bool :=
  a.name == b.name && a.runsOn == b.runsOn && a.needs == b.needs &&
    sameOption ValueMap.same a.permissions b.permissions && sameOption ValueMap.same a.env b.env &&
    sameOption Strategy.same a.strategy b.strategy && sameEntries a.extra b.extra &&
    sameList Step.same a.steps b.steps

/-- Whether two workflows are the same, where neither the order of the jobs counts nor that of the
entries of any mapping. -/
def Workflow.same (a b : Workflow) : Bool :=
  a.name == b.name && a.runName == b.runName && a.on.same b.on &&
    sameOption ValueMap.same a.env b.env && sameEntries a.extra b.extra &&
    a.jobs.sameBy Job.same b.jobs

end CiWorkflow
