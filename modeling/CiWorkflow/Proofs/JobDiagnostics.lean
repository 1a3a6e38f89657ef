import CiWorkflow.Proofs.CycleSearch
import CiWorkflow.Proofs.JobEdits
/-!
# Diagnostics Job by Job

What a workflow is told comes in blocks: one about the workflow as a whole, and one about each job
in the order of the jobs. The block of a job depends on the job and on the ids of all jobs, and the
block of the whole on the triggers, the ids, and what each job needs. So an edit that leaves the
needs of a job as they are listed can change nothing but the block of that job.

That the search for circular dependencies depends on needs and ids alone is not seen from the search
itself, which is bounded by the number of jobs and looks up the jobs one by one. It is clear of the
runs without a bound (see `CycleSearch`), which know of nothing else.

## Layers

- **Blocks**: the diagnostics of a workflow in one block for the whole and one for each job.
- **Needs that stay**: edits that leave the needs of a job as they are listed.
- **Edited jobs**: the blocks before and after an edit.
-/

namespace CiWorkflow

/-! ## Blocks -/

namespace Workflow

/-- What is told of a workflow as a whole: of its triggers, of having no jobs, and of circular
dependencies. -/
def overview (w : Workflow) : List Diagnostic :=
  Lint.checkTriggers w.triggers ++
    Lint.report w.jobs.isEmpty (.error "jobs" "Workflow must have at least one job") ++
    Lint.checkCycles w.jobs

/-- What is told of a job under its id. -/
def toldOf (w : Workflow) (options : LintOptions) (e : String × Job) : List Diagnostic :=
  Lint.checkJob options w.jobs.keys e.1 e.2

/-- The diagnostics in blocks, with or without jobs. -/
theorem lintWith_eq (options : LintOptions) (w : Workflow) :
    w.lintWith options = w.overview ++ w.jobs.entries.flatMap (w.toldOf options) := by
  unfold lintWith Lint.checkJobs overview
  rw [List.append_assoc, List.append_assoc]
  cases hempty : w.jobs.isEmpty with
  | true =>
    -- without jobs there are neither blocks nor cycles
    rw [KeyedList.isEmpty_iff.mp hempty]
    rfl
  | false => rfl

end Workflow

/-- By the runs without a bound, which take nothing from the jobs but ids and needs. -/
theorem Lint.checkCycles_congr {jobs other : KeyedList Job} (hkeys : jobs.keys = other.keys)
    (hneeds : needsIn jobs = needsIn other) : checkCycles jobs = checkCycles other := by
  have hnames := names_cycleJobs jobs
  rw [hkeys, hneeds] at hnames
  rw [checkCycles, hnames.unique (names_cycleJobs other), checkCycles]

/-! ## Needs that stay -/

/-- An edit leaves the needs of a job as they are listed. Edits of steps always do. -/
def JobEdit.KeepsNeeds (j : Job) : JobEdit → Prop
  | .update change => (change j).needsList = j.needsList
  | .setNeeds needs => needs = j.needsList
  | .addStep _ | .updateStep _ _ | .removeStep _ => True

/-- That the listed needs stay is all that a block of another job could notice. -/
theorem JobEdit.needsList_onJob {e : JobEdit} {j : Job} (h : e.KeepsNeeds j) :
    (e.onJob j).needsList = j.needsList := by
  cases e with
  | update change => exact h
  | setNeeds needs => exact (Needs.toList_ofList needs).trans h
  | addStep _ | updateStep _ _ | removeStep _ => rfl

namespace Workflow

variable {w : Workflow} {id : String} {j : Job} {e : JobEdit}

/-- The graph of needs is the same, whatever shape the needs of the job are written in. -/
theorem needsOf_editJob (hj : w.jobs.get? id = some j) (hneeds : e.KeepsNeeds j) :
    (w.editJob id e).needsOf = w.needsOf := by
  -- `needsOf_updateJob` is about changes that keep the shape of any needs; this one keeps what one
  -- job lists, and may write it in another shape
  funext other
  unfold needsOf
  rcases Classical.em (other = id) with rfl | hother
  · rw [get?_editJob hj, hj, Option.map_some, Option.map_some, JobEdit.needsList_onJob hneeds]
  · rw [editJob_eq_updateJob, (w.sameBut_updateJob id e.onJob).others other hother]

/-! ## Edited jobs -/

theorem keys_editJob (w : Workflow) (id : String) (e : JobEdit) :
    (w.editJob id e).jobs.keys = w.jobs.keys := by
  rw [editJob_eq_updateJob, keys_updateJob]

/-- The block of a job depends on the other jobs by their ids alone. -/
theorem toldOf_editJob (w : Workflow) (id : String) (e : JobEdit) :
    (w.editJob id e).toldOf = w.toldOf := by
  funext options entry
  rw [toldOf, keys_editJob, toldOf]

/-- The block of the whole is the same, for its parts have nothing else to go by. -/
theorem overview_editJob (hj : w.jobs.get? id = some j) (hneeds : e.KeepsNeeds j) :
    (w.editJob id e).overview = w.overview := by
  have htriggers : (w.editJob id e).triggers = w.triggers := by
    rw [triggers, editJob_eq_updateJob, (w.sameBut_updateJob id e.onJob).on, triggers]
  have hempty : (w.editJob id e).jobs.isEmpty = w.jobs.isEmpty := by
    rw [editJob_eq_updateJob]
    exact List.isEmpty_map
  have hcycles : Lint.checkCycles (w.editJob id e).jobs = Lint.checkCycles w.jobs :=
    Lint.checkCycles_congr (w.keys_editJob id e) (needsOf_editJob hj hneeds)
  rw [overview, htriggers, hempty, hcycles, overview]

/-- **Diagnostics are local to the edited job.** Where an edit leaves the needs of a job as they are
listed, the diagnostics of the workflow are the same before and after it, in the same order, but for
the block of that job: in its place stands what is told of the edited job. This is so for any change
of the job, and for all edits of its steps, whether or not the step is there. -/
theorem lintWith_editJob (options : LintOptions) (w : Workflow) (id : String) (j : Job)
    (hj : w.jobs.get? id = some j) (e : JobEdit) (hneeds : e.KeepsNeeds j) :
    ∃ new front behind,
      w.jobs.entries = front ++ (id, j) :: behind ∧
      (w.editJob id e).jobs.entries = front ++ (id, new) :: behind ∧
      (w.editJob id e).overview = w.overview ∧
      (∀ entry ∈ front ++ behind,
        (w.editJob id e).toldOf options entry = w.toldOf options entry) ∧
      w.lintWith options = w.overview ++ front.flatMap (w.toldOf options) ++
        w.toldOf options (id, j) ++ behind.flatMap (w.toldOf options) ∧
      (w.editJob id e).lintWith options = w.overview ++ front.flatMap (w.toldOf options) ++
        (w.editJob id e).toldOf options (id, new) ++ behind.flatMap (w.toldOf options) := by
  obtain ⟨front, behind, hentries, hmodify⟩ := KeyedList.exists_entries_modify hj
  have hedited : (w.editJob id e).jobs.entries = front ++ (id, e.onJob j) :: behind := by
    rw [editJob_eq_updateJob]
    exact hmodify e.onJob
  have hoverview := overview_editJob hj hneeds
  refine ⟨e.onJob j, front, behind, hentries, hedited, hoverview, fun entry _ => ?_, ?_, ?_⟩
  · rw [toldOf_editJob]
  · rw [lintWith_eq, hentries, List.flatMap_append, List.flatMap_cons]
    simp only [List.append_assoc]
  · rw [lintWith_eq, hedited, hoverview, toldOf_editJob, List.flatMap_append, List.flatMap_cons]
    simp only [List.append_assoc]

/-- Two jobs in a cycle behind one with a missing need. The second job has a single step, which does
two things, and the last one has no runner. -/
def crowded : Workflow :=
  { on := .event "push"
    jobs := .ofList [("a", { needs := some (.one "gone") }),
      ("b", { needs := some (.many ["a", "c"]), steps := [{ run := some "x", uses := some "y" }] }),
      ("c", { needs := some (.one "b"), runsOn := .labels [], steps := [.ofCommand "x"] })] }

/-- The step in the middle is removed, and its job has no steps any more. -/
theorem lintWith_editJob_crowded :
    ∃ j, crowded.jobs.get? "b" = some j ∧ (JobEdit.removeStep 0).KeepsNeeds j ∧
    crowded.lint.map Diagnostic.path = ["jobs.b.needs", "jobs.a.needs", "jobs.a.steps",
      "jobs.b.steps[0]", "jobs.b.steps[0].uses", "jobs.c.runs-on"] ∧
    (crowded.removeStep "b" 0).lint.map Diagnostic.path = ["jobs.b.needs", "jobs.a.needs",
      "jobs.a.steps", "jobs.b.steps", "jobs.c.runs-on"] ∧
    ∃ new front behind,
      crowded.jobs.entries = front ++ ("b", j) :: behind ∧
      (crowded.removeStep "b" 0).jobs.entries = front ++ ("b", new) :: behind ∧
      (crowded.removeStep "b" 0).overview = crowded.overview ∧
      (∀ entry ∈ front ++ behind,
        (crowded.removeStep "b" 0).toldOf {} entry = crowded.toldOf {} entry) ∧
      crowded.lint = crowded.overview ++ front.flatMap (crowded.toldOf {}) ++
        crowded.toldOf {} ("b", j) ++ behind.flatMap (crowded.toldOf {}) ∧
      (crowded.removeStep "b" 0).lint = crowded.overview ++ front.flatMap (crowded.toldOf {}) ++
        (crowded.removeStep "b" 0).toldOf {} ("b", new) ++ behind.flatMap (crowded.toldOf {}) := by
  have hj : crowded.jobs.get? "b" = some
      { needs := some (.many ["a", "c"]), steps := [{ run := some "x", uses := some "y" }] } := by
    decide +kernel
  exact ⟨_, hj, trivial, by decide +kernel, by decide +kernel,
    lintWith_editJob {} crowded "b" _ hj (.removeStep 0) trivial⟩

end Workflow

end CiWorkflow
