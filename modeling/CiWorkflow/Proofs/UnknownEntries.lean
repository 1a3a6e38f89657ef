import CiWorkflow.Proofs.RoundTrip
/-!
# Unknown Entries

Workflows, jobs and steps each have a few fields and carry all other entries of their mappings
along. A field is looked up by its name as it stands. What is carried along, however, is told by the
names that stand behind tags too, so that an entry with the name of a field behind a tag is neither
read as the field nor carried along. It is the only kind of entry that is lost.

## Layers

- **Mappings**: the entries that are no fields, and those of them that are carried along.
- **Levels**: the mappings of workflows, jobs and steps, as they are read and as they are written.
-/

namespace CiWorkflow

open Yaml (Value Entries)

/-! ## Mappings -/

/-- The entries whose keys are not the name of a field as it stands, in their order. -/
def unrecognized (known : List String) (entries : Entries) : Entries :=
  entries.filter fun e => ∀ name ∈ known, e.1 ≠ .string name

/-- No key is the name of a field behind a tag. -/
def NoTaggedField (known : List String) (entries : Entries) : Prop :=
  ∀ e ∈ entries, ∀ name ∈ known, e.1.untagged = .string name → e.1 = .string name

/-- All entries that are no fields are carried along exactly where no field has a tag before its
name. -/
theorem passthrough_eq_unrecognized_iff {known : List String} {entries : Entries} :
    passthrough known entries = unrecognized known entries ↔ NoTaggedField known entries := by
  rw [passthrough_eq_filter]
  constructor
  · intro heq e he name hname huntagged
    by_contra htagged
    -- the name is its only one, so it is no field under any other name either
    have hmem : e ∈ unrecognized known entries := by
      refine List.mem_filter.mpr ⟨he, decide_eq_true fun other _ hplain => htagged ?_⟩
      have hother : e.1.untagged = .string other := by rw [hplain]; rfl
      rw [hplain, ← hother, huntagged]
    rw [← heq] at hmem
    exact of_decide_eq_true (List.mem_filter.mp hmem).2 name hname huntagged
  · intro h
    apply List.filter_congr
    intro e he
    refine decide_eq_decide.mpr (forall₂_congr fun name hname => not_congr ?_)
    exact ⟨h e he name hname, fun hplain => by rw [hplain]; rfl⟩

/-- What is carried along is no field. -/
theorem ne_of_mem_passthrough {known : List String} {entries : Entries} {e : Value × Value}
    (h : e ∈ passthrough known entries) {name : String} (hname : name ∈ known) :
    e.1 ≠ .string name := by
  intro hplain
  exact foreign_passthrough known entries e h name hname (by rw [hplain]; rfl)

/-! ## Levels -/

/-- The parts of a workflow that carry unknown entries along. -/
inductive Level where
  | workflow
  | job
  /-- A step at its position in a job. -/
  | step (index : Nat)

namespace Level

/-- The names of the fields. -/
def fields : Level → List String
  | workflow => workflowKeys
  | job => jobKeys
  | step _ => stepKeys

/-- What is carried along when a mapping is read. -/
def carried : Level → Entries → Entries
  | workflow, entries => (Workflow.ofEntries entries).workflow.extra
  | job, entries => (Job.ofEntries entries).extra
  | step index, entries => (Step.ofValue index (.mapping entries)).extra

/-- What is written of what was read of a mapping. -/
def written : Level → Entries → Value
  | workflow, entries => (Workflow.ofEntries entries).workflow.toNode.toValue
  | job, entries => (Job.ofEntries entries).toNode.toValue
  | step index, entries => (Step.ofValue index (.mapping entries)).toNode.toValue

/-- The three levels differ in their known keys and in nothing else. -/
theorem carried_eq_passthrough (level : Level) (entries : Entries) :
    level.carried entries = passthrough level.fields entries := by
  cases level with
  | workflow =>
    unfold carried Workflow.ofEntries
    dsimp only
    split <;> rfl
  | job => rfl
  | step index => rfl

/-- What is carried along is written in one piece. -/
theorem exists_written (level : Level) (entries : Entries) :
    ∃ fields, level.written entries = .mapping fields ∧ level.carried entries <:+: fields := by
  cases level with
  | workflow => exact ⟨_, Workflow.toValue_eq _, _, _, rfl⟩
  | job => exact ⟨_, Job.toValue_toNode _, _, _, rfl⟩
  | step index => exact ⟨_, Step.toValue_toNode _, _, [], List.append_nil _⟩

end Level

/-- Jobs are written within the workflow, under their ids. -/
theorem Workflow.exists_written_jobs (w : Workflow) :
    ∃ fields, w.toValue = .mapping fields ∧
      (.string "jobs", .mapping (w.jobs.entries.map fun e => (.string e.1, e.2.toNode.toValue))) ∈
        fields := by
  refine ⟨w.written, w.toValue_eq, ?_⟩
  simp [written, optionalEntry, jobsValue, Job.toValue_toNode]

/-- Steps are written within the job, in their order. -/
theorem Job.exists_written_steps (j : Job) :
    ∃ fields, j.toNode.toValue = .mapping fields ∧
      (.string "steps", .sequence (j.steps.map fun s => s.toNode.toValue)) ∈ fields := by
  refine ⟨j.written, j.toValue_toNode, ?_⟩
  simp [written, optionalEntry, stepsValue, Step.toValue_toNode]

/-- **Unknown entries are carried along and written back, unless they look like fields.** Of a
mapping that is read as a workflow, a job or a step, all entries that are no fields are carried
along in their order exactly where none has the name of a field behind a tag. No field is carried
along besides, and what is carried along is written as one piece of what is written of the workflow,
the job or the step; jobs are written within their workflow, and steps within their job. -/
theorem carried_eq_unrecognized_iff (level : Level) (entries : Entries) :
    (level.carried entries = unrecognized level.fields entries ↔
      NoTaggedField level.fields entries) ∧
    (∀ e ∈ level.carried entries, ∀ name ∈ level.fields, e.1 ≠ .string name) ∧
    (∃ fields, level.written entries = .mapping fields ∧ level.carried entries <:+: fields) ∧
    (∀ w : Workflow, ∃ fields, w.toValue = .mapping fields ∧
      (.string "jobs", .mapping (w.jobs.entries.map fun e => (.string e.1, e.2.toNode.toValue))) ∈
        fields) ∧
    ∀ j : Job, ∃ fields, j.toNode.toValue = .mapping fields ∧
      (.string "steps", .sequence (j.steps.map fun s => s.toNode.toValue)) ∈ fields := by
  refine ⟨?_, ?_, level.exists_written entries, Workflow.exists_written_jobs,
    Job.exists_written_steps⟩
  · rw [level.carried_eq_passthrough]
    exact passthrough_eq_unrecognized_iff
  · intro e he name hname
    rw [level.carried_eq_passthrough] at he
    exact ne_of_mem_passthrough he hname

/-- The entries of a document in which a tag stands before the name of a field. -/
def taggedRoot : Entries :=
  [(.tagged "t" (.string "name"), .string "x"), (.string "jobs", .mapping [])]

/-- An entry with the name of a field behind a tag is lost without a problem. -/
theorem not_carried_taggedName :
    Value.ofText "!t name: x\njobs: {}" = .ok (.mapping taggedRoot) ∧
    Workflow.ofText "!t name: x\njobs: {}" = ⟨{}, []⟩ ∧
    unrecognized workflowKeys taggedRoot = [(.tagged "t" (.string "name"), .string "x")] ∧
    Level.workflow.carried taggedRoot = [] := by
  refine ⟨?_, ?_, ?_, ?_⟩ <;> decide +kernel

end CiWorkflow
