import CiWorkflow.Edit
import CiWorkflow.Layout.Json
import CiWorkflow.Lint.Workflow
import CiWorkflow.Settings
import CiWorkflow.Workflow.Text
/-!
# Commands

What the commands do: each one reads a workflow file, or none, and has an outcome, which is what is
printed, what is written to files, and whether it failed. Files are looked up by a function, so that
a command is a plain function of their contents.

Main definitions:

- `Command.run`: the outcome of a command;
- `Settings.load`: the settings in a file.
-/

namespace CiWorkflow

inductive Command where
  /-- Check a workflow, and fail if it has errors. -/
  | check (file : String)
  /-- Print the diagnostics of a workflow. -/
  | lint (file : String) (json : Bool)
  /-- Print a workflow in canonical form, or put that into its file. -/
  | format (file : String) (inPlace : Bool)
  /-- Print the graph of a workflow. -/
  | layout (file : String)
  /-- List the triggers of a workflow. -/
  | triggers (file : String)
  /-- Print a new workflow. -/
  | new (sample : Bool)
deriving DecidableEq

/-- The file that a command reads. -/
def Command.file? : Command → Option String
  | .check file | .lint file _ | .format file _ | .layout file | .triggers file => some file
  | .new _ => none

/-- What comes of a command. -/
structure Outcome where
  /-- Whether it failed. -/
  failed : Bool := false
  /-- What it printed. -/
  output : String := ""
  /-- What it complained about. -/
  errors : String := ""
  /-- The files it wrote, with their new contents. -/
  written : List (String × String) := []
deriving DecidableEq, Inhabited

namespace Outcome

def printed (output : String) : Outcome := { output := output }

/-- A command that failed, maybe after it printed something. -/
def failure (message : String) (output : String := "") (complaints : String := "") : Outcome :=
  { failed := true, output := output, errors := complaints ++ "Error: " ++ message ++ "\n" }

end Outcome

/-- The contents of a file, or why it cannot be read. -/
abbrev Files := String → Except String String

namespace Command

/-! ## Reading -/

/-- Do something with the workflow in a file, if it can be read without problems. -/
def withWorkflow (files : Files) (file : String) (act : Workflow → Outcome) : Outcome :=
  match files file with
  | .error reason => .failure ("Failed to read workflow file '" ++ file ++ "': " ++ reason)
  | .ok text =>
    let r := Workflow.ofText text
    if r.isOk then act r.workflow
    else
      .failure ("'" ++ file ++ "' has " ++ toString r.problems.length ++ " parse error(s)") ""
        (String.join (r.messages.map fun m => "   " ++ m ++ "\n"))

/-! ## Printing -/

/-- What a check prints. -/
def summary (file : String) (w : Workflow) (ds : List Diagnostic) : String :=
  let errors := errorCount ds
  let name := w.name.getD file
  (if errors = 0 then "✅ Workflow '" ++ name ++ "' is valid\n"
    else "❌ Workflow '" ++ name ++ "' has problems\n") ++
  "   Jobs: " ++ toString w.jobs.size ++ ", triggers: " ++ toString w.triggers.length ++ "\n" ++
  "   Errors: " ++ toString errors ++ ", warnings: " ++ toString (ds.length - errors) ++ "\n" ++
  String.join (ds.map fun d => "   " ++ d.text ++ "\n")

/-- Diagnostics, one in a line. -/
def diagnosticLines (ds : List Diagnostic) : String :=
  if ds.isEmpty then "No problems found\n" else String.join (ds.map fun d => d.text ++ "\n")

def diagnosticsJson (ds : List Diagnostic) : Json :=
  .array <| ds.map fun d =>
    .object [("message", .string d.message), ("path", .string d.path),
      ("severity", .string d.severity.text)]

/-- Triggers, numbered, one in a line. -/
def triggerLines (ts : List Trigger) : String :=
  if ts.isEmpty then "No triggers configured\n"
  else
    String.join <| ts.mapIdx fun index t =>
      toString (index + 1) ++ ". " ++ t.description ++ "\n"

/-! ## Commands -/

def runCheck (settings : Settings) (files : Files) (file : String) : Outcome :=
  withWorkflow files file fun w =>
    let ds := w.lintWith settings.lint
    let output := summary file w ds
    if 0 < errorCount ds then
      .failure ("'" ++ file ++ "' has " ++ toString (errorCount ds) ++ " lint error(s)") output
    else .printed output

def runLint (settings : Settings) (files : Files) (file : String) (json : Bool) : Outcome :=
  withWorkflow files file fun w =>
    let ds := w.lintWith settings.lint
    let output := if json then (diagnosticsJson ds).pretty ++ "\n" else diagnosticLines ds
    if 0 < errorCount ds then
      .failure (toString (errorCount ds) ++ " lint error(s)") output
    else .printed output

/-- Bring a workflow into canonical form. A file with problems is left alone. -/
def runFormat (files : Files) (file : String) (inPlace : Bool) : Outcome :=
  withWorkflow files file fun w =>
    match w.toText with
    | .error fault => .failure (Workflow.writeMessage fault)
    | .ok text => if inPlace then { written := [(file, text)] } else .printed text

def runLayout (settings : Settings) (files : Files) (file : String) : Outcome :=
  withWorkflow files file fun w =>
    match (w.layout settings.geometry).toJson with
    | .error fault => .failure ("Failed to encode layout: " ++ fault.text)
    | .ok json => .printed (json.pretty ++ "\n")

def runTriggers (files : Files) (file : String) : Outcome :=
  withWorkflow files file fun w => .printed (triggerLines w.triggers)

def runNew (sample : Bool) : Outcome :=
  match (if sample then Workflow.sample else Workflow.blank).toText with
  | .error fault => .failure (Workflow.writeMessage fault)
  | .ok text => .printed text

def run (settings : Settings) (files : Files) : Command → Outcome
  | .check file => runCheck settings files file
  | .lint file json => runLint settings files file json
  | .format file inPlace => runFormat files file inPlace
  | .layout file => runLayout settings files file
  | .triggers file => runTriggers files file
  | .new sample => runNew sample

end Command

/-! ## Settings -/

/-- The settings in a file, or the defaults where no file is named. -/
def Settings.load (files : Files) (file : Option String) : Except String Settings :=
  match file with
  | none => .ok {}
  | some file =>
    match files file with
    | .error reason => .error ("Failed to read settings file '" ++ file ++ "': " ++ reason)
    | .ok text =>
      match ofText text with
      | .error problem => .error ("Invalid settings file '" ++ file ++ "': " ++ problem.message)
      | .ok settings => .ok settings

end CiWorkflow
