import CiWorkflow.Lint.Cycle
import CiWorkflow.Lint.Job
import CiWorkflow.Lint.Trigger
import CiWorkflow.Trigger.Shape
/-!
# Checks of workflows

All checks of a workflow, in a fixed order: its triggers, whether there are jobs, circular
dependencies, and every job in the order of the document. No check hides another.
-/

namespace CiWorkflow

namespace Lint

/-- All checks of jobs, of which there has to be one. -/
def checkJobs (options : LintOptions) (jobs : KeyedList Job) : List Diagnostic :=
  if jobs.isEmpty then [.error "jobs" "Workflow must have at least one job"]
  else
    checkCycles jobs ++ jobs.entries.flatMap fun e => checkJob options jobs.keys e.1 e.2

end Lint

namespace Workflow

/-- All diagnostics of a workflow. -/
def lintWith (options : LintOptions) (w : Workflow) : List Diagnostic :=
  Lint.checkTriggers w.triggers ++ Lint.checkJobs options w.jobs

/-- All diagnostics of a workflow, with nothing else known. -/
def lint (w : Workflow) : List Diagnostic := w.lintWith {}

end Workflow

end CiWorkflow
