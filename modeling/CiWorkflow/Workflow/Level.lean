import CiWorkflow.Workflow
/-!
# Levels

Jobs are placed in columns from left to right. A column takes every job that is left and needs
nothing but jobs in the columns before. When there is no such job, because of a cycle or a need that
names no job, the first job that is left gets a column for itself, so that all jobs are placed in
the end.

Main definitions:

- `Workflow.levels`: the columns, each in the order of the jobs.
-/

namespace CiWorkflow

/-- The jobs among those left that need nothing but placed ones. -/
def readyJobs (needs : String → List String) (placed left : List String) : List String :=
  left.filter fun id => (needs id).all placed.contains

/-- The next column: the jobs that are ready, or else the first one that is left. -/
def nextColumn (needs : String → List String) (placed left : List String) : List String :=
  match readyJobs needs placed left with
  | [] => left.take 1
  | ready => ready

/-- The columns of the jobs that are left, of which there are no more than `bound`. -/
def columnsFrom (needs : String → List String) (bound : Nat) (placed left : List String) :
    List (List String) :=
  match bound, left with
  | 0, _ => []
  | _, [] => []
  | bound + 1, left =>
    let column := nextColumn needs placed left
    column ::
      columnsFrom needs bound (placed ++ column) (left.filter fun id => !column.contains id)

/-- The columns of all jobs. -/
def Workflow.levels (w : Workflow) : List (List String) :=
  columnsFrom w.needsOf w.jobs.size [] w.jobs.keys

end CiWorkflow
