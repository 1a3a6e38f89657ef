import CiWorkflow.Workflow
/-!
# Triggers

One record per trigger, whatever the shape in which the triggers of a workflow are written.
Schedules are written as a list of records under one event, and every record is a trigger.

Main definitions:

- `Trigger`: an event with its configuration;
- `TriggerConfig`: the filters of a trigger, kept as they are written;
- `Trigger.description`, `Trigger.label`: texts for display.
-/

namespace CiWorkflow

open Yaml (Value)

/-! ## Configurations -/

/-- The configuration of a trigger. -/
abbrev TriggerConfig := ValueMap

namespace TriggerConfig

/-- The configuration that a value describes. What is no mapping configures nothing. -/
def ofValue : Value → TriggerConfig
  | .mapping entries => .ofEntries entries
  | _ => .empty

/-- The configuration of a schedule. -/
def ofCron (cron : String) : TriggerConfig := .singleton "cron" (.string cron)

/-- The texts of a filter: those in its list, or the one text that it is. -/
def strings (c : TriggerConfig) (key : String) : List String :=
  match c.get? key with
  | some (.sequence items) => items.filterMap Value.asString?
  | some (.string s) => [s]
  | _ => []

/-- The cron expression of a schedule. -/
def cron? (c : TriggerConfig) : Option String := (c.get? "cron").bind Value.asString?

end TriggerConfig

/-! ## Triggers -/

/-- An event that starts a workflow. -/
structure Trigger where
  event : String
  config : TriggerConfig
deriving DecidableEq, Inhabited

namespace Trigger

/-- The event whose configuration is a list of cron expressions. -/
def scheduleEvent : String := "schedule"

/-- The cron expression of a schedule that has none. -/
def defaultCron : String := "0 0 * * *"

def plain (event : String) : Trigger := ⟨event, .empty⟩

def isSchedule (t : Trigger) : Bool := t.event == scheduleEvent

/-- Whether two triggers are the same, up to the order of entries. -/
def same (a b : Trigger) : Bool := a.event == b.event && a.config.same b.config

/-! ## Display -/

/-- One part of a description, if there is anything to tell. -/
def part (name : String) (texts : List String) : List String :=
  if texts.isEmpty then [] else [name ++ ": " ++ ", ".intercalate texts]

/-- An event with its filters. -/
def description (t : Trigger) : String :=
  " • ".intercalate <|
    [t.event] ++ part "branches" (t.config.strings "branches") ++
      part "tags" (t.config.strings "tags") ++ part "paths" (t.config.strings "paths") ++
      part "types" (t.config.strings "types") ++
      (t.config.cron?.map fun cron => "cron: " ++ cron).toList

/-- An event with its branches, or else its tags. -/
def label (t : Trigger) : String :=
  let branches := t.config.strings "branches"
  let tags := t.config.strings "tags"
  if !branches.isEmpty then t.event ++ " (" ++ ", ".intercalate branches ++ ")"
  else if !tags.isEmpty then t.event ++ " (" ++ ", ".intercalate tags ++ ")"
  else t.event

end Trigger

end CiWorkflow
