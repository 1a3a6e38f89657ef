import CiWorkflow.FreshName
import CiWorkflow.Trigger.Shape
/-!
# Editing

Workflows are edited one thing at a time. What is named and not there is not edited.

Main definitions:

- `Workflow.addJob`, `Workflow.removeJob`, `Workflow.setNeeds`: jobs and their needs;
- `Workflow.updateJob`: any change of a job;
- `Workflow.addStep`, `Workflow.updateStep`, `Workflow.removeStep`: steps;
- `Workflow.addTrigger`, `Workflow.setTriggers`: triggers.
-/

namespace CiWorkflow

open Yaml (Value)

namespace Workflow

/-! ## New workflows -/

/-- Pushes to the main branch. -/
def pushToMain : On :=
  .map (.singleton "push" (.mapping [(.string "branches", .sequence [.string "main"])]))

/-- A workflow without jobs. -/
def blank : Workflow := { name := some "Untitled Workflow", on := pushToMain }

/-- A job of one step. -/
def singleStep (command : String) (needs : Option Needs) : Job :=
  { needs := needs, steps := [.ofCommand command] }

/-- A workflow of two jobs, of which the second one needs the first. -/
def sample : Workflow :=
  { name := some "Sample"
    on := pushToMain
    jobs := (KeyedList.singleton "build" (singleStep "echo build" none)).insert "test"
      (singleStep "echo test" (some (.one "build"))) }

/-! ## Jobs -/

/-- The first id of the form `job-1`, `job-2`, … that is not taken. -/
def freshJobId (taken : List String) : String :=
  fresh taken fun n => "job-" ++ toString (n + 1)

/-- Append a job that needs the given ones. -/
def addJob (w : Workflow) (needs : List String) : Workflow × String :=
  let id := freshJobId w.jobs.keys
  let job := singleStep "echo \"Hello, World!\"" (Needs.ofList needs)
  ({ w with jobs := w.jobs.insert id job }, id)

/-- A job that no longer needs another one. Its needs keep their shape if they did not have it. -/
def withoutNeed (id : String) (j : Job) : Job :=
  -- the shape of the needs is chosen anew only where something is taken out
  if j.needsList.contains id then { j with needs := Needs.ofList (j.needsList.filter (· != id)) }
  else j

def removeJob (w : Workflow) (id : String) : Workflow :=
  if w.jobs.contains id then { w with jobs := (w.jobs.erase id).mapValues (withoutNeed id) } else w

def updateJob (w : Workflow) (id : String) (change : Job → Job) : Workflow :=
  { w with jobs := w.jobs.modify id change }

def setNeeds (w : Workflow) (id : String) (needs : List String) : Workflow :=
  w.updateJob id fun j => { j with needs := Needs.ofList needs }

/-! ## Steps -/

def addStep (w : Workflow) (id : String) (step : Step) : Workflow :=
  w.updateJob id fun j => { j with steps := j.steps ++ [step] }

def updateStep (w : Workflow) (id : String) (index : Nat) (change : Step → Step) : Workflow :=
  w.updateJob id fun j => { j with steps := j.steps.modify index change }

def removeStep (w : Workflow) (id : String) (index : Nat) : Workflow :=
  w.updateJob id fun j => { j with steps := j.steps.eraseIdx index }

/-! ## Triggers -/

/-- Replace the triggers, in their shortest shape. -/
def setTriggers (w : Workflow) (triggers : List Trigger) : Workflow :=
  { w with on := .ofTriggers triggers }

/-- Append a trigger without configuration. -/
def addTrigger (w : Workflow) (event : String) : Workflow :=
  w.setTriggers (w.triggers ++ [.plain event])

end Workflow

end CiWorkflow
