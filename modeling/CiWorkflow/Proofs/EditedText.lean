import CiWorkflow.Proofs.EditRuns
import CiWorkflow.Proofs.RoundTrip
/-!
# Saving Edited Workflows

A workflow comes back from its text as it is if it is canonical, which is a matter of its jobs and
steps one by one: nothing that they carry along has the key of a field, and no map or strategy is
there without holding anything. Reading makes canonical workflows, and edits keep them canonical, as
long as the steps that come in are canonical themselves. The triggers are free, since every shape of
them reads back.

## Layers

- **Canonical parts**: steps and jobs, and the workflow that is made of them.
- **Edits**: what is known of every job after an edit.
- **Runs**: every workflow of a run is saved and loaded unchanged.
-/

namespace CiWorkflow

/-! ## Canonical parts -/

/-- A step that is read as it was written. -/
structure Step.Canonical (s : Step) : Prop where
  /-- Its arguments are absent or not empty. -/
  arguments : s.arguments ≠ some .empty
  /-- Its environment is absent or not empty. -/
  env : s.env ≠ some .empty
  foreign : Foreign stepKeys s.extra

instance (s : Step) : Decidable s.Canonical :=
  decidable_of_iff
    (s.arguments ≠ some .empty ∧ s.env ≠ some .empty ∧ Foreign stepKeys s.extra)
    ⟨fun h => ⟨h.1, h.2.1, h.2.2⟩, fun h => ⟨h.arguments, h.env, h.foreign⟩⟩

/-- The normal form drops a map only where it is there and empty. -/
theorem ValueMap.nonEmpty?_eq_self_iff {m : Option ValueMap} :
    nonEmpty? m = m ↔ m ≠ some .empty := by
  cases m with
  | none => simp [nonEmpty?]
  | some m => simp [nonEmpty?, Option.filter_some, ← KeyedList.isEmpty_iff]

/-- A canonical step is one that is its own normal form. -/
theorem Step.canonical_iff {s : Step} :
    s.Canonical ↔ Foreign stepKeys s.extra ∧ s.normalize = s := by
  have hnormal : s.normalize = s ↔ ValueMap.nonEmpty? s.arguments = s.arguments ∧
      ValueMap.nonEmpty? s.env = s.env := by
    cases s
    simp [normalize]
  rw [hnormal, ValueMap.nonEmpty?_eq_self_iff, ValueMap.nonEmpty?_eq_self_iff]
  constructor
  · exact fun h => ⟨h.foreign, h.arguments, h.env⟩
  · rintro ⟨hforeign, harguments, henv⟩
    exact ⟨harguments, henv, hforeign⟩

/-- A job that is read as it was written. -/
structure Job.Canonical (j : Job) : Prop where
  /-- Its strategy is absent or sets something. -/
  strategy : ∀ s ∈ j.strategy, s.isUnset = false
  foreign : Foreign jobKeys j.extra
  steps : ∀ s ∈ j.steps, s.Canonical

/-- A canonical job is one that is its own normal form, with canonical steps. -/
theorem Job.canonical_iff {j : Job} : j.Canonical ↔ j.ForeignExtras ∧ j.normalize = j := by
  have hstrategy : j.strategy.filter (fun s => !s.isUnset) = j.strategy ↔
      ∀ s ∈ j.strategy, s.isUnset = false := by
    cases j.strategy <;> simp [Option.filter_some]
  have hsteps : j.steps.map Step.normalize = j.steps ↔ ∀ s ∈ j.steps, s.normalize = s := by
    rw [← List.map_inj_left, List.map_id']
  -- normalizing changes the strategy and the steps only
  have hnormal : j.normalize = j ↔
      (∀ s ∈ j.strategy, s.isUnset = false) ∧ ∀ s ∈ j.steps, s.normalize = s := by
    rw [← hstrategy, ← hsteps]
    cases j
    simp [normalize]
  rw [hnormal]
  constructor
  · intro h
    have hsteps := fun s hs => Step.canonical_iff.mp (h.steps s hs)
    exact ⟨⟨h.foreign, fun s hs => (hsteps s hs).1⟩, h.strategy, fun s hs => (hsteps s hs).2⟩
  · rintro ⟨hforeign, hstrategy, hsteps⟩
    refine ⟨hstrategy, hforeign.own, fun s hs => ?_⟩
    exact Step.canonical_iff.mpr ⟨hforeign.steps s hs, hsteps s hs⟩

namespace Workflow

variable {w : Workflow}

/-- Workflows are canonical job by job, which is how edits change them. -/
theorem canonical_iff : w.Canonical ↔ Foreign workflowKeys w.extra ∧ w.env ≠ some .empty ∧
    ∀ id job, w.jobs.get? id = some job → job.Canonical := by
  -- of the workflow itself, normalizing changes the environment only
  have hnormal : w.normalize = w ↔
      w.env ≠ some .empty ∧ w.jobs.mapValues Job.normalize = w.jobs := by
    rw [← ValueMap.nonEmpty?_eq_self_iff]
    cases w
    simp [normalize]
  rw [KeyedList.mapValues_eq_self_iff] at hnormal
  constructor
  · rintro ⟨hforeign, hself⟩
    obtain ⟨henv, hjobs⟩ := hnormal.mp hself
    refine ⟨hforeign.own, henv, fun id job hjob => Job.canonical_iff.mpr ?_⟩
    exact ⟨hforeign.jobs _ (KeyedList.get?_eq_some_iff.mp hjob), hjobs id job hjob⟩
  · rintro ⟨hown, henv, hjobs⟩
    have hjob := fun id job hjob => Job.canonical_iff.mp (hjobs id job hjob)
    refine ⟨⟨hown, fun e he => ?_⟩, hnormal.mpr ⟨henv, fun id job hget => (hjob id job hget).2⟩⟩
    exact (hjob e.1 e.2 (KeyedList.get?_eq_some_iff.mpr he)).1

/-! ## Edits -/

/-- Only the jobs and what stands beside them count, but not the triggers. -/
theorem Canonical.of_jobs {v : Workflow} (h : w.Canonical) (hextra : v.extra = w.extra)
    (henv : v.env = w.env) (hjobs : ∀ id job, v.jobs.get? id = some job → job.Canonical) :
    v.Canonical := by
  obtain ⟨hown, hnonempty, _⟩ := canonical_iff.mp h
  rw [canonical_iff, hextra, henv]
  exact ⟨hown, hnonempty, hjobs⟩

theorem Canonical.job {id : String} {job : Job} (h : w.Canonical)
    (hjob : w.jobs.get? id = some job) : job.Canonical :=
  (canonical_iff.mp h).2.2 id job hjob

/-- A step that the program makes has nothing to lose. -/
theorem canonical_ofCommand (command : String) : (Step.ofCommand command).Canonical where
  arguments := nofun
  env := nofun
  foreign := nofun

theorem canonical_singleStep (command : String) (needs : Option Needs) :
    (singleStep command needs).Canonical where
  strategy := nofun
  foreign := nofun
  steps := by
    intro s hs
    rw [List.mem_singleton.mp hs]
    exact canonical_ofCommand command

theorem canonical_withoutNeed {job : Job} (h : job.Canonical) (id : String) :
    (withoutNeed id job).Canonical := by
  unfold withoutNeed
  split
  · exact ⟨h.strategy, h.foreign, h.steps⟩
  · exact h

theorem Canonical.addJob (h : w.Canonical) (needs : List String) :
    (w.addJob needs).1.Canonical := by
  refine h.of_jobs rfl rfl fun id job hjob => ?_
  rw [get?_addJob] at hjob
  split at hjob
  · cases hjob
    exact canonical_singleStep _ _
  · exact h.job hjob

theorem Canonical.removeJob (h : w.Canonical) (id : String) : (w.removeJob id).Canonical := by
  rcases Classical.em (id ∈ w.jobs.keys) with hmem | hmissing
  · have hextra : (w.removeJob id).extra = w.extra := by rw [removeJob_of_mem hmem]
    have henv : (w.removeJob id).env = w.env := by rw [removeJob_of_mem hmem]
    refine h.of_jobs hextra henv fun other job hjob => ?_
    rw [get?_removeJob hmem] at hjob
    split at hjob
    · cases hjob
    · obtain ⟨old, hold, rfl⟩ := Option.map_eq_some_iff.mp hjob
      exact canonical_withoutNeed (h.job hold) id
  · rwa [removeJob_of_not_mem hmissing]

/-- A change of one job is safe if it is safe for this job. -/
theorem Canonical.updateJob (h : w.Canonical) {id : String} {change : Job → Job}
    (hchange : ∀ job ∈ w.jobs.get? id, job.Canonical → (change job).Canonical) :
    (w.updateJob id change).Canonical := by
  refine h.of_jobs rfl rfl fun other job hjob => ?_
  rw [get?_updateJob] at hjob
  obtain ⟨old, hold, rfl⟩ := Option.map_eq_some_iff.mp hjob
  -- the job that was changed is the one that was there under its id
  split
  · next heq =>
    rw [heq] at hold
    exact hchange old hold (h.job hold)
  · exact h.job hold

/-- An item of a list of which one was changed is an old one, or the changed one. -/
private theorem mem_of_mem_modify {α : Type} {items : List α} {index : Nat} {change : α → α} {a : α}
    (h : a ∈ items.modify index change) : a ∈ items ∨ ∃ old ∈ items[index]?, a = change old := by
  obtain ⟨i, hi⟩ := List.mem_iff_getElem?.mp h
  rw [List.getElem?_modify] at hi
  obtain ⟨old, hold, rfl⟩ := Option.map_eq_some_iff.mp hi
  split
  · next heq => exact .inr ⟨old, heq ▸ hold, rfl⟩
  · exact .inl (List.mem_of_getElem? hold)

/-- The steps that come in with an edit are canonical. -/
def BringsCanonical (w : Workflow) : Edit → Prop
  | .addStep _ step => step.Canonical
  | .updateStep id index change =>
    ∀ job ∈ w.jobs.get? id, ∀ s ∈ job.steps[index]?, (change s).Canonical
  | _ => True

instance (w : Workflow) : (e : Edit) → Decidable (w.BringsCanonical e)
  | .addStep _ step => inferInstanceAs (Decidable step.Canonical)
  | .updateStep id index change => inferInstanceAs
      (Decidable (∀ job ∈ w.jobs.get? id, ∀ s ∈ job.steps[index]?, (change s).Canonical))
  | .addJob _ | .removeJob _ | .setNeeds _ _ | .addTrigger _ | .setTriggers _
  | .removeStep _ _ => .isTrue trivial

/-- The step lemma: each of the eight edits keeps a workflow canonical. -/
theorem Canonical.apply (h : w.Canonical) {e : Edit} (hbrings : w.BringsCanonical e) :
    (w.apply e).Canonical := by
  -- jobs are changed in the fields that the edit names, so that all else of them is as before
  cases e with
  | addJob needs => exact h.addJob needs
  | removeJob id => exact h.removeJob id
  | setNeeds id needs =>
    exact h.updateJob fun job _ hjob => ⟨hjob.strategy, hjob.foreign, hjob.steps⟩
  | addTrigger event => exact h.of_jobs rfl rfl fun _ _ hjob => h.job hjob
  | setTriggers triggers => exact h.of_jobs rfl rfl fun _ _ hjob => h.job hjob
  | addStep id step =>
    apply h.updateJob
    intro job _ hjob
    refine ⟨hjob.strategy, hjob.foreign, fun s hs => ?_⟩
    rcases List.mem_append.mp hs with hold | hnew
    · exact hjob.steps s hold
    · rw [List.mem_singleton.mp hnew]
      exact hbrings
  | updateStep id index change =>
    apply h.updateJob
    intro job hget hjob
    refine ⟨hjob.strategy, hjob.foreign, fun s hs => ?_⟩
    rcases mem_of_mem_modify hs with hold | ⟨old, hold, rfl⟩
    · exact hjob.steps s hold
    · exact hbrings job hget old hold
  | removeStep id index =>
    apply h.updateJob
    intro job _ hjob
    exact ⟨hjob.strategy, hjob.foreign,
      fun s hs => hjob.steps s (List.mem_of_mem_eraseIdx hs)⟩

/-! ## Runs -/

/-- The workflows from which editing begins: what comes of any text, or one of the ready ones. -/
inductive Source : Workflow → Prop where
  | read (text : String) : Source (ofText text).workflow
  | blank : Source blank
  | sample : Source sample
  | empty : Source {}
  | unusable : Source unusable

/-- All beginnings are canonical: what is read carries no empty maps and no known keys along. -/
theorem Source.canonical (h : Source w) : w.Canonical := by
  cases h with
  | read text => exact canonical_ofText text
  | unusable => exact canonical_unusable
  | blank | sample | empty => exact ⟨by decide +kernel, by decide +kernel⟩

/-- **Every edited workflow is saved and loaded unchanged.** Whatever run of edits leads to it, from
whatever text or new workflow, as long as the steps that come in are canonical: its text is read as
the same workflow without any problem. -/
theorem saved_of_mem_history {source : Workflow} (hsource : Source source) {edits : List Edit}
    (hedits : source.Admits BringsCanonical edits) :
    ∀ w ∈ source.history edits, w.SurvivesText →
      (∃ text, w.toText = .ok text ∧ ofText text = ⟨w, []⟩) ∧ w.reloadMessages = [] := by
  intro w hw hsurvives
  -- canonical at first and after every edit, so that writing leaves out nothing
  obtain ⟨hforeign, hnormal⟩ : w.Canonical :=
    forall_mem_history (fun _ _ h hbrings => h.apply hbrings) hsource.canonical hedits w hw
  obtain ⟨text, hwrite, hread⟩ := hsurvives.exists_ofText hforeign
  rw [hnormal] at hread
  refine ⟨⟨text, hwrite, hread⟩, ?_⟩
  unfold reloadMessages
  simp only [hwrite, hread, Reading.messages, List.map_nil]

/-- Edits of a job and its steps, some of which are not there. -/
def mixedEdits : List Edit :=
  [.addJob ["a"], .setNeeds "a" ["job-1", "gone"], .removeJob "job-1",
    .addStep "a" { arguments := some (.singleton "k" .null), extra := [(.string "if", .null)] },
    .updateStep "a" 1 fun s => { s with shell := some "" },
    .updateStep "a" 9 fun s => { s with env := some .empty }, .removeStep "a" 0,
    .addTrigger "push"]

/-- What these edits make of a single job whose only step is no mapping. -/
def afterMixedEdits : Workflow :=
  { on := .event "push"
    jobs := .singleton "a"
      { needs := some (.one "gone")
        steps := [{ arguments := some (.singleton "k" .null), shell := some ""
                    extra := [(.string "if", .null)] }] } }

/-- A run with edits of missing jobs and steps, from a text that was read with problems. -/
theorem saved_of_mem_history_mixed :
    (ofText "jobs: {a: {steps: [1]}, b: 2}").workflow.Admits BringsCanonical mixedEdits ∧
    afterMixedEdits ∈ (ofText "jobs: {a: {steps: [1]}, b: 2}").workflow.history mixedEdits ∧
    afterMixedEdits.SurvivesText ∧
    (∃ text, afterMixedEdits.toText = .ok text ∧ ofText text = ⟨afterMixedEdits, []⟩) ∧
    afterMixedEdits.reloadMessages = [] := by
  have hedits : (ofText "jobs: {a: {steps: [1]}, b: 2}").workflow.Admits BringsCanonical
      mixedEdits := by decide +kernel
  have hmem : afterMixedEdits ∈
      (ofText "jobs: {a: {steps: [1]}, b: 2}").workflow.history mixedEdits := by decide +kernel
  have hsurvives : afterMixedEdits.SurvivesText := by decide +kernel
  exact ⟨hedits, hmem, hsurvives,
    saved_of_mem_history (.read _) hedits afterMixedEdits hmem hsurvives⟩

end Workflow

end CiWorkflow
