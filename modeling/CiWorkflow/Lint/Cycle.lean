import CiWorkflow.Lint
import CiWorkflow.Workflow
/-!
# Circular dependencies

A depth-first search along the needs of jobs. All searches share the set of visited jobs, so one
cycle is usually told once. A search ends as soon as it meets a job that is being searched already.

Main definitions:

- `Search.visit`: searches from one job, with bounded depth;
- `Search.hasCycle`: searches from one job; depth is bounded by the number of jobs;
- `cycleJobs`: the jobs from which a cycle is found, in order.
-/

namespace CiWorkflow.Lint

/-- How far a search has come. -/
structure Search where
  /-- The jobs that were visited, the last one first. -/
  visited : List String
  /-- The jobs that are being searched, the last one first. -/
  stack : List String
deriving DecidableEq

namespace Search

/-- Before anything is visited. -/
def start : Search := ⟨[], []⟩

/-- Whether a step succeeds on some item of a list; the first success ends the walk. -/
def anyStep (step : String → Search → Bool × Search) : List String → Search → Bool × Search
  | [], s => (false, s)
  | id :: rest, s =>
    match step id s with
    | (true, s) => (true, s)
    | (false, s) => anyStep step rest s

def enter (s : Search) (id : String) : Search := ⟨id :: s.visited, id :: s.stack⟩

def leave (s : Search) (id : String) : Search := { s with stack := s.stack.filter (· != id) }

/-- Search from a job, at most so deep: whether a cycle is found, and how far the search has
come. -/
def visit (needs : String → List String) (depth : Nat) (id : String) (s : Search) : Bool × Search :=
  match depth with
  | 0 => (false, s)
  | depth + 1 =>
    if s.stack.contains id then (true, s)
    else if s.visited.contains id then (false, s)
    else
      -- once a cycle is found the needs that are left stay unvisited
      let (found, s) := anyStep (visit needs depth) (needs id) (s.enter id)
      (found, s.leave id)

/-- Search from a job. Only jobs that were not visited need others, so the depth is bounded. -/
def hasCycle (jobs : KeyedList Job) (id : String) (s : Search) : Bool × Search :=
  visit (fun id => ((jobs.get? id).map Job.needsList).getD []) (jobs.size + 2) id s

/-- The jobs among the given ones from which a cycle is found, where a visited job is passed
over. -/
def cycles (jobs : KeyedList Job) : List String → Search → List String
  | [], _ => []
  | id :: rest, s =>
    if s.visited.contains id then cycles jobs rest s
    else
      match hasCycle jobs id s with
      | (true, s) => id :: cycles jobs rest s
      | (false, s) => cycles jobs rest s

end Search

/-- The jobs from which a cycle is found, in order. -/
def cycleJobs (jobs : KeyedList Job) : List String := Search.cycles jobs jobs.keys .start

def cycleDiagnostic (id : String) : Diagnostic :=
  .error ("jobs." ++ id ++ ".needs")
    ("Circular dependency detected involving job \"" ++ id ++ "\"")

/-- Whether there are circular dependencies. -/
def checkCycles (jobs : KeyedList Job) : List Diagnostic := (cycleJobs jobs).map cycleDiagnostic

end CiWorkflow.Lint
