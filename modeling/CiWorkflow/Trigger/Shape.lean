import CiWorkflow.Trigger
import CiWorkflow.Workflow.Decode
import CiWorkflow.Workflow.Encode
/-!
# Shapes of triggers

The triggers of a workflow are written in one of several shapes. All of them expand to a list of
triggers, and a list of triggers folds to the shortest shape for it.

Main definitions:

- `On.triggers`: the list of triggers that a shape stands for;
- `On.ofTriggers`: the shortest shape for a list of triggers.
-/

namespace CiWorkflow

open Yaml (Value)

/-! ## Expanding -/

/-- The triggers of one event: one for every record of a schedule, and one otherwise. -/
def Trigger.expand (event : String) (config : Value) : List Trigger :=
  match config with
  | .sequence records =>
    if event = Trigger.scheduleEvent then
      records.map fun r => ⟨event, .ofValue r⟩
    else [⟨event, .ofValue config⟩]
  | _ => [⟨event, .ofValue config⟩]

/-- The triggers of events with their configuration. -/
def Trigger.ofMap (m : ValueMap) : List Trigger := m.entries.flatMap fun e => expand e.1 e.2

def OnEntry.triggers : OnEntry → List Trigger
  | .event name => [.plain name]
  | .configured m => Trigger.ofMap m

/-- The triggers of a workflow. A single event without a name is none. -/
def On.triggers : On → List Trigger
  | .event name => if name.isEmpty then [] else [.plain name]
  | .list entries => entries.flatMap OnEntry.triggers
  | .map m => Trigger.ofMap m

/-- The triggers that a value describes. -/
def On.triggersOfValue (v : Value) : List Trigger := ((On.ofValue? v).map On.triggers).getD []

/-! ## Folding -/

/-- A schedule that has a cron expression. -/
def Trigger.filled (t : Trigger) : Trigger :=
  if t.config.cron?.isNone then
    { t with config := t.config.insert "cron" (.string defaultCron) }
  else t

/-- The configurations of schedules in a list, which all have a cron expression. -/
def Trigger.scheduleValue (schedules : List Trigger) : Value :=
  .sequence (schedules.map fun t => ValueMap.toValue t.filled.config)

/-- A trigger as an element of a list. -/
def Trigger.toEntry (t : Trigger) : OnEntry :=
  if t.config.isEmpty then .event t.event
  else .configured (.singleton t.event (ValueMap.toValue t.config))

/-- The shortest shape for triggers of which the schedules are known:

- no triggers make an empty mapping;
- one event without configuration is written by its name, one with configuration as a mapping;
- schedules alone make a mapping, and so does one event with schedules behind it;
- several events make a list, of which the last element holds the schedules. -/
def On.ofParts : (events schedules : List Trigger) → On
  | [], [] => .map .empty
  | [], schedules => .map (.singleton Trigger.scheduleEvent (Trigger.scheduleValue schedules))
  | [t], [] =>
    if t.config.isEmpty then .event t.event
    else .map (.singleton t.event (ValueMap.toValue t.config))
  | [t], schedules =>
    .map <| (KeyedList.singleton t.event (ValueMap.toValue t.config)).insert
      Trigger.scheduleEvent (Trigger.scheduleValue schedules)
  | events, [] => .list (events.map Trigger.toEntry)
  | events, schedules =>
    .list (events.map Trigger.toEntry ++
      [.configured (.singleton Trigger.scheduleEvent (Trigger.scheduleValue schedules))])

/-- The shortest shape for a list of triggers. Schedules go behind all other events. -/
def On.ofTriggers (triggers : List Trigger) : On :=
  ofParts (triggers.filter fun t => !t.isSchedule) (triggers.filter Trigger.isSchedule)

namespace Workflow

def triggers (w : Workflow) : List Trigger := w.on.triggers

end Workflow

end CiWorkflow
