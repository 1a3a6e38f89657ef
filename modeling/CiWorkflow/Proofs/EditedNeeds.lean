import CiWorkflow.Proofs.ClosedCycles
import CiWorkflow.Proofs.Depth
/-!
# Needs of Edited Jobs

Edits of jobs do two things to the graph of needs. A job that is added has edges to jobs only, and
no edge leads to it, since its id is new and needs named no id without a job. All other edits take
edges away, if anything.

## Layers

- **Fewer edges**: sound needs stay sound without some of them.
- **A new job**: sound needs stay sound with a job that nothing needs.
- **Runs**: every edit, and so every run, keeps needs sound.
-/

namespace CiWorkflow.Workflow

open Relation

variable {w v : Workflow}

/-! ## Fewer edges -/

/-- A workflow with fewer needs, of which none names a job that is gone, has sound needs too. -/
theorem SoundNeeds.of_needsOf_subset (h : w.SoundNeeds)
    (hneeds : ∀ id, ∀ need ∈ v.needsOf id, need ∈ w.needsOf id ∧ need ∈ v.jobs.keys) :
    v.SoundNeeds where
  exist id need hneed := (hneeds id need hneed).2
  acyclic := by
    rintro ⟨id, hcycle⟩
    have hsub : ∀ a b, Edge v.needsOf a b → Edge w.needsOf a b :=
      fun a b hedge => (hneeds a b hedge).1
    exact h.acyclic ⟨id, TransGen.mono hsub id id hcycle⟩

/-- What is taken out of the needs leaves no cycle that was not there, and nobody misses the removed
job. -/
theorem SoundNeeds.removeJob (h : w.SoundNeeds) (id : String) : (w.removeJob id).SoundNeeds := by
  rcases Classical.em (id ∈ w.jobs.keys) with hmem | hmissing
  · -- what is still needed was needed before, and it is not the job that was removed
    apply h.of_needsOf_subset
    intro other need hneed
    rw [needsOf_removeJob hmem] at hneed
    rw [keys_removeJob, List.mem_filter]
    split at hneed
    · cases hneed
    · obtain ⟨hold, hne⟩ := List.mem_filter.mp hneed
      exact ⟨hold, h.exist other need hold, hne⟩
  · rwa [removeJob_of_not_mem hmissing]

/-- Changes that spare the needs cannot do harm. -/
theorem SoundNeeds.updateJob (h : w.SoundNeeds) (id : String) {change : Job → Job}
    (hchange : ∀ j, (change j).needs = j.needs) : (w.updateJob id change).SoundNeeds := by
  apply h.of_needsOf_subset
  intro other need hneed
  rw [needsOf_updateJob hchange] at hneed
  rw [keys_updateJob]
  exact ⟨hneed, h.exist other need hneed⟩

/-! ## A new job -/

/-- A new job that needs jobs only is needed by none of them, so that it closes no cycle. -/
theorem SoundNeeds.addJob (h : w.SoundNeeds) {needs : List String}
    (hneeds : ∀ need ∈ needs, need ∈ w.jobs.keys) : (w.addJob needs).1.SoundNeeds where
  exist id need hneed := by
    rw [keys_addJob]
    apply List.mem_append_left
    have hmem : need ∈ (w.addJob needs).1.needsOf id := hneed
    rw [needsOf_addJob] at hmem
    split at hmem
    · exact hneeds need hmem
    · exact h.exist id need hmem
  acyclic := by
    rw [cyclic_addJob_iff hneeds]
    rintro (hcycle | ⟨_, _, hpath⟩)
    · exact h.acyclic hcycle
    · -- a job that waited for the new one would have had a need that is no job
      obtain ⟨last, _, hlast⟩ := TransGen.tail'_iff.mp hpath
      exact w.addJob_id_not_mem needs (h.exist last _ hlast)

/-! ## Runs -/

/-- A new job needs jobs that are there, and no needs are replaced. -/
def AllowsEdit (w : Workflow) : Edit → Prop
  | .addJob needs => ∀ need ∈ needs, need ∈ w.jobs.keys
  | .setNeeds _ _ => False
  | _ => True

instance (w : Workflow) : (e : Edit) → Decidable (w.AllowsEdit e)
  | .addJob needs => inferInstanceAs (Decidable (∀ need ∈ needs, need ∈ w.jobs.keys))
  | .setNeeds _ _ => .isFalse not_false
  | .removeJob _ | .addTrigger _ | .setTriggers _ | .addStep _ _ | .updateStep _ _ _
  | .removeStep _ _ => .isTrue trivial

/-- The step lemma: one allowed edit keeps the needs sound. -/
theorem SoundNeeds.apply (h : w.SoundNeeds) {e : Edit} (hallowed : w.AllowsEdit e) :
    (w.apply e).SoundNeeds := by
  cases e with
  | addJob needs => exact h.addJob hallowed
  | removeJob id => exact h.removeJob id
  | setNeeds id needs => exact hallowed.elim
  | addTrigger event => exact ⟨h.exist, h.acyclic⟩
  | setTriggers triggers => exact ⟨h.exist, h.acyclic⟩
  | addStep id step => exact h.updateJob id fun _ => rfl
  | updateStep id index change => exact h.updateJob id fun _ => rfl
  | removeStep id index => exact h.updateJob id fun _ => rfl

/-- **Editing keeps the needs of jobs sound.** From a workflow with sound needs, any run of edits
leads through workflows with sound needs only, as long as each new job needs jobs that are there at
that moment and no needs are replaced. None of these workflows is told of a circular dependency or
of a job that does not exist. -/
theorem soundNeeds_of_mem_history (w : Workflow) (h : w.SoundNeeds) (edits : List Edit)
    (hedits : w.Admits AllowsEdit edits) :
    ∀ v ∈ w.history edits, v.SoundNeeds ∧ ∀ d ∈ v.lint, ¬d.ReportsCycle ∧ ¬d.ReportsMissingJob := by
  intro v hv
  have hsound : v.SoundNeeds :=
    forall_mem_history (fun _ _ h hallowed => h.apply hallowed) h hedits v hv
  exact ⟨hsound, soundNeeds_iff_lintWith.mp hsound⟩

/-- Jobs that come and go: one that others need, one that needs others, and one that is not there;
and in between steps and triggers. -/
def jobEdits : List Edit :=
  [.addJob ["build", "test", "build"], .removeJob "build", .removeJob "build",
    .addStep "job-1" (.ofCommand "make"),
    .updateStep "job-1" 0 fun s => { s with name := some "A" },
    .addJob ["job-1"], .removeStep "test" 0, .addTrigger "create", .removeJob "job-1",
    .setTriggers [.plain "push"], .addJob ["job-2", "test"]]

/-- A run through all kinds of edits that are allowed, one of them of a job that is gone by then. -/
theorem soundNeeds_of_mem_history_sample :
    sample.SoundNeeds ∧ sample.Admits AllowsEdit jobEdits ∧
    ((sample.history jobEdits).map fun v => v.jobs.keys.map fun id => (id, v.needsOf id)).getLast? =
      some [("test", []), ("job-2", []), ("job-1", ["job-2", "test"])] ∧
    ∀ v ∈ sample.history jobEdits,
      v.SoundNeeds ∧ ∀ d ∈ v.lint, ¬d.ReportsCycle ∧ ¬d.ReportsMissingJob := by
  have hbelow : ∀ id ∈ sample.jobs.keys, sample.SoundBelow 2 id := by decide +kernel
  have hsound : sample.SoundNeeds :=
    soundNeeds_iff_forall_soundJob.mpr fun id hid => (hbelow id hid).soundJob
  have hedits : sample.Admits AllowsEdit jobEdits := by decide +kernel
  exact ⟨hsound, hedits, by decide +kernel,
    soundNeeds_of_mem_history sample hsound jobEdits hedits⟩

end CiWorkflow.Workflow
