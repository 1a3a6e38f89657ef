import CiWorkflow.Proofs.EditRuns
/-!
# Edits of One Job

An edit of a job names the job, and an edit of a step also names the place of the step. What it
names may be missing, and then nothing is edited. All edits of a job are one operation, a change of
the value under its id, so that what an edit leaves alone is shown once for all of them. What is
left to show of each is what becomes of the job itself.

## Layers

- **Edits of a job**, with what they look for and what they make of a job.
- **One operation**: every edit changes the job under one id, and does so in one of the ways told.
- **Frames**: the rest of the workflow, and edits that find nothing.
-/

namespace CiWorkflow

/-! ## Edits of a job -/

/-- A change of one job. -/
inductive JobEdit where
  | update (change : Job → Job)
  | setNeeds (needs : List String)
  | addStep (step : Step)
  | updateStep (index : Nat) (change : Step → Step)
  | removeStep (index : Nat)

namespace JobEdit

/-- What an edit looks for in a job is there: the step that it names, if it names one. -/
def Finds (j : Job) : JobEdit → Prop
  | .updateStep index _ | .removeStep index => index < j.steps.length
  | _ => True

/-- What an edit makes of a job in which it finds what it looks for. -/
inductive Makes : JobEdit → Job → Job → Prop where
  /-- A job may be changed in any way. -/
  | update (change : Job → Job) (j : Job) : Makes (.update change) j (change j)
  /-- The job lists the new needs, in whatever shape, and all else of it is as before. -/
  | setNeeds {needs : List String} {j new : Job} (hneeds : new.needsList = needs)
      (hrest : { new with needs := j.needs } = j) : Makes (.setNeeds needs) j new
  /-- The new step stands behind all others. -/
  | addStep (step : Step) (j : Job) :
      Makes (.addStep step) j { j with steps := j.steps ++ [step] }
  /-- The step at the place is replaced by what the change makes of it. -/
  | updateStep {front behind : List Step} {step : Step} {j : Job} (change : Step → Step)
      (hsteps : j.steps = front ++ step :: behind) :
      Makes (.updateStep front.length change) j { j with steps := front ++ change step :: behind }
  /-- The step at the place is taken out. -/
  | removeStep {front behind : List Step} {step : Step} {j : Job}
      (hsteps : j.steps = front ++ step :: behind) :
      Makes (.removeStep front.length) j { j with steps := front ++ behind }

/-- The change of the job that comes with an edit. -/
def onJob : JobEdit → Job → Job
  | .update change, j => change j
  | .setNeeds needs, j => { j with needs := Needs.ofList needs }
  | .addStep step, j => { j with steps := j.steps ++ [step] }
  | .updateStep index change, j => { j with steps := j.steps.modify index change }
  | .removeStep index, j => { j with steps := j.steps.eraseIdx index }

/-- An edit of a step that is not there is no edit. -/
theorem onJob_eq_self {e : JobEdit} {j : Job} (h : ¬e.Finds j) : e.onJob j = j := by
  cases e with
  | updateStep index change =>
    rw [onJob, List.modify_eq_self (Nat.le_of_not_lt h)]
  | removeStep index =>
    rw [onJob, List.eraseIdx_of_length_le (Nat.le_of_not_lt h)]
  | update _ | setNeeds _ | addStep _ => exact absurd trivial h

/-- A step that is there has its place between those before it and those behind it. -/
private theorem exists_split {steps : List Step} {index : Nat} (h : index < steps.length) :
    ∃ front step behind, steps = front ++ step :: behind ∧ front.length = index :=
  ⟨steps.take index, steps[index], steps.drop (index + 1), by simp, by simp [Nat.le_of_lt h]⟩

private theorem eraseIdx_middle (front behind : List Step) (step : Step) :
    (front ++ step :: behind).eraseIdx front.length = front ++ behind := by
  rw [List.eraseIdx_append_of_length_le (Nat.le_refl _), Nat.sub_self, List.eraseIdx_cons_zero]

/-- The operations on lists of steps make what the edit says, front and behind untouched. -/
theorem makes_onJob {e : JobEdit} {j : Job} (h : e.Finds j) : e.Makes j (e.onJob j) := by
  cases e with
  | update change => exact .update change j
  | setNeeds needs => exact .setNeeds (Needs.toList_ofList needs) rfl
  | addStep step => exact .addStep step j
  | updateStep index change =>
    obtain ⟨front, step, behind, hsteps, rfl⟩ := exists_split h
    have hmodify : j.steps.modify front.length change = front ++ change step :: behind := by
      rw [hsteps, List.modify_eq_take_cons_drop (by simp)]
      simp
    rw [onJob, hmodify]
    exact .updateStep change hsteps
  | removeStep index =>
    obtain ⟨front, step, behind, hsteps, rfl⟩ := exists_split h
    rw [onJob, hsteps, eraseIdx_middle]
    exact .removeStep hsteps

end JobEdit

namespace Workflow

variable {w : Workflow} {id : String}

/-! ## One operation -/

/-- The workflow after an edit of one of its jobs. -/
def editJob (w : Workflow) (id : String) : JobEdit → Workflow
  | .update change => w.updateJob id change
  | .setNeeds needs => w.setNeeds id needs
  | .addStep step => w.addStep id step
  | .updateStep index change => w.updateStep id index change
  | .removeStep index => w.removeStep id index

/-- All edits of a job are one change of it under its id. -/
theorem editJob_eq_updateJob (w : Workflow) (id : String) (e : JobEdit) :
    w.editJob id e = w.updateJob id e.onJob := by
  cases e <;> rfl

theorem get?_editJob {j : Job} (hj : w.jobs.get? id = some j) (e : JobEdit) :
    (w.editJob id e).jobs.get? id = some (e.onJob j) := by
  rw [editJob_eq_updateJob, get?_updateJob, hj, Option.map_some, if_pos rfl]

theorem updateJob_updateJob (w : Workflow) (id : String) (change next : Job → Job) :
    (w.updateJob id change).updateJob id next = w.updateJob id fun j => next (change j) := by
  simp only [updateJob, KeyedList.modify_modify]

theorem updateJob_eq_self {change : Job → Job}
    (h : ∀ j, w.jobs.get? id = some j → change j = j) : w.updateJob id change = w := by
  rw [updateJob, KeyedList.modify_eq_self h]

/-! ## Frames -/

/-- Two workflows are the same but for what stands under one id, which is the id of a job in both of
them or in neither. -/
structure SameBut (id : String) (w v : Workflow) : Prop where
  name : v.name = w.name
  runName : v.runName = w.runName
  on : v.on = w.on
  env : v.env = w.env
  extra : v.extra = w.extra
  /-- The jobs have the same ids in the same order. -/
  keys : v.jobs.keys = w.jobs.keys
  /-- All other jobs are the same. -/
  others : ∀ other, other ≠ id → v.jobs.get? other = w.jobs.get? other

theorem sameBut_updateJob (w : Workflow) (id : String) (change : Job → Job) :
    SameBut id w (w.updateJob id change) where
  name := rfl
  runName := rfl
  on := rfl
  env := rfl
  extra := rfl
  keys := keys_updateJob ..
  others other hother := by
    rw [get?_updateJob]
    cases w.jobs.get? other with
    | none => rfl
    | some j => rw [Option.map_some, if_neg hother]

/-- A step that was added last is taken out again, and nothing is left of it. -/
theorem removeStep_addStep {j : Job} (hj : w.jobs.get? id = some j) (step : Step) :
    (w.addStep id step).removeStep id j.steps.length = w := by
  rw [addStep, removeStep, updateJob_updateJob]
  apply updateJob_eq_self
  intro other hother
  obtain rfl : j = other := Option.some.inj (hj.symm.trans hother)
  -- the steps of the job end where the new one begins
  have hsteps : (j.steps ++ [step]).eraseIdx j.steps.length = j.steps := by
    rw [JobEdit.eraseIdx_middle, List.append_nil]
  rw [hsteps]

/-- **Edits touch only what they name.** An edit of a job leaves all of the workflow but that job as
it is, with the order of the jobs; of the job it makes what it is told to, so that edits of steps
leave all else of the job and all other steps alone, and replaced needs are listed as they were
given. If there is no such job, or no such step of it, the workflow stays as it is. A step that is
added and then removed leaves no trace. Edits of triggers touch nothing but the triggers. -/
theorem edits_touch_only_named (w : Workflow) (id : String) :
    (∀ e : JobEdit, SameBut id w (w.editJob id e)) ∧
    (∀ e : JobEdit, (∀ j, w.jobs.get? id = some j → ¬e.Finds j) → w.editJob id e = w) ∧
    (∀ j, w.jobs.get? id = some j →
      (∀ e : JobEdit, e.Finds j →
        ∃ new, (w.editJob id e).jobs.get? id = some new ∧ e.Makes j new) ∧
      ∀ step, (w.addStep id step).removeStep id j.steps.length = w) ∧
    (∀ triggers, { w.setTriggers triggers with on := w.on } = w) ∧
    ∀ event, { w.addTrigger event with on := w.on } = w := by
  refine ⟨fun e => ?_, fun e hmissing => ?_, fun j hj => ⟨fun e hfinds => ?_, ?_⟩,
    fun _ => rfl, fun _ => rfl⟩
  · rw [editJob_eq_updateJob]
    exact w.sameBut_updateJob id e.onJob
  · rw [editJob_eq_updateJob]
    exact updateJob_eq_self fun j hj => JobEdit.onJob_eq_self (hmissing j hj)
  · exact ⟨e.onJob j, get?_editJob hj e, JobEdit.makes_onJob hfinds⟩
  · exact removeStep_addStep hj

end Workflow

end CiWorkflow
