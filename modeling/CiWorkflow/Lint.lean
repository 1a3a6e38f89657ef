/-!
# Diagnostics

What the checks of a workflow have to say: a message, the place in the workflow, and whether the
workflow cannot run as it is written.
-/

namespace CiWorkflow

/-- How grave a diagnostic is. -/
inductive Severity where
  /-- The workflow cannot run as it is written. -/
  | error
  /-- It is likely a mistake. -/
  | warning
deriving DecidableEq

def Severity.text : Severity → String
  | .error => "error"
  | .warning => "warning"

structure Diagnostic where
  /-- How grave it is. -/
  severity : Severity
  /-- The place in the workflow. -/
  path : String
  /-- What is wrong. -/
  message : String
deriving DecidableEq

namespace Diagnostic

/-- A diagnostic of something that cannot be. -/
def error (path message : String) : Diagnostic := ⟨.error, path, message⟩

/-- A diagnostic of something that should not be. -/
def warning (path message : String) : Diagnostic := ⟨.warning, path, message⟩

/-- Whether the workflow cannot run. -/
def isError (d : Diagnostic) : Bool := d.severity == .error

def text (d : Diagnostic) : String := d.severity.text ++ ": " ++ d.path ++ ": " ++ d.message

end Diagnostic

/-- A diagnostic, if a condition holds. -/
def Lint.report (condition : Bool) (d : Diagnostic) : List Diagnostic :=
  if condition then [d] else []

def errorCount (ds : List Diagnostic) : Nat := ds.countP Diagnostic.isError

/-- What the checks can be told. -/
structure LintOptions where
  /-- Runner labels that are known beside the common ones. -/
  extraRunnerLabels : List String := []
deriving DecidableEq, Inhabited

end CiWorkflow
