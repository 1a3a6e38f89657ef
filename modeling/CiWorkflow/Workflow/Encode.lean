import CiWorkflow.Workflow
import CiWorkflow.Yaml.Node
/-!
# Workflows as values

How the model is written as a YAML value: the fields of every level in a fixed order with the
unknown entries before the last field, and without the fields that are absent. Empty maps of a
workflow or a step and strategies that set nothing are absent too.

Triggers are also handed out by themselves, as the raw value of what stands under `on`.

Main definitions:

- `Workflow.toNode`: what is written;
- `Workflow.toValue`: its value;
- `On.toValue`: triggers as a raw value.
-/

namespace CiWorkflow

open Yaml (Value Entries Node)

/-! ## Fields -/

/-- A named piece. -/
def fieldNode (name : String) (n : Node) : Value × Node := (.string name, n)

/-- A named value, if it is there. -/
def optionalField {α : Type} (name : String) (encode : α → Value) (a : Option α) :
    List (Value × Node) :=
  match a with
  | some a => [fieldNode name (.value (encode a))]
  | none => []

/-- The unknown entries as they are. -/
def extraFields (extra : Entries) : List (Value × Node) := extra.map fun e => (e.1, .value e.2)

/-! ## Shapes -/

def OnEntry.toValue : OnEntry → Value
  | .event name => .string name
  | .configured m => m.toValue

/-- Triggers as a raw value. -/
def On.toValue : On → Value
  | .event name => .string name
  | .list entries => .sequence (entries.map OnEntry.toValue)
  | .map m => m.toValue

/-- What is written of a map, entry by entry. -/
def ValueMap.toNode (m : ValueMap) : Node :=
  .record (m.entries.map fun e => fieldNode e.1 (.value e.2))

def OnEntry.toNode : OnEntry → Node
  | .event name => .value (.string name)
  | .configured m => m.toNode

/-- What is written of the triggers of a workflow. -/
def On.toNode : On → Node
  | .event name => .value (.string name)
  | .list entries => .list (entries.map OnEntry.toNode)
  | .map m => m.toNode

def RunsOn.toValue : RunsOn → Value
  | .label l => .string l
  | .labels ls => .sequence (ls.map .string)

def Needs.toValue : Needs → Value
  | .one id => .string id
  | .many ids => .sequence (ids.map .string)

def Strategy.toValue (s : Strategy) : Value :=
  .mapping <|
    (s.matrix.map fun m => (Value.string "matrix", m.toValue)).toList ++
    (s.failFast.map fun b => (Value.string "fail-fast", Value.bool b)).toList ++
    (s.maxParallel.map fun n => (Value.string "max-parallel", Value.number (.int n.toInt))).toList

def Step.toNode (s : Step) : Node :=
  .record <|
    optionalField "id" .string s.id ++
    optionalField "name" .string s.name ++
    optionalField "uses" .string s.uses ++
    optionalField "run" .string s.run ++
    optionalField "with" ValueMap.toValue (ValueMap.nonEmpty? s.arguments) ++
    optionalField "env" ValueMap.toValue (ValueMap.nonEmpty? s.env) ++
    optionalField "shell" .string s.shell ++
    extraFields s.extra

def Job.toNode (j : Job) : Node :=
  .record <|
    optionalField "name" .string j.name ++
    [fieldNode "runs-on" (.value j.runsOn.toValue)] ++
    optionalField "needs" Needs.toValue j.needs ++
    optionalField "permissions" ValueMap.toValue j.permissions ++
    optionalField "env" ValueMap.toValue j.env ++
    optionalField "strategy" Strategy.toValue (j.strategy.filter fun s => !s.isUnset) ++
    extraFields j.extra ++
    [fieldNode "steps" (.list (j.steps.map Step.toNode))]

/-- What is written of a workflow. -/
def Workflow.toNode (w : Workflow) : Node :=
  .record <|
    optionalField "name" .string w.name ++
    optionalField "run-name" .string w.runName ++
    [fieldNode "on" w.on.toNode] ++
    optionalField "env" ValueMap.toValue (ValueMap.nonEmpty? w.env) ++
    extraFields w.extra ++
    [fieldNode "jobs" (.record (w.jobs.entries.map fun e => fieldNode e.1 e.2.toNode))]

def Workflow.toValue (w : Workflow) : Value := w.toNode.toValue

end CiWorkflow
