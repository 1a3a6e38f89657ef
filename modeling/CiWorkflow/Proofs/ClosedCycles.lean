import CiWorkflow.Proofs.CycleSearch
import CiWorkflow.Proofs.EditRuns
/-!
# Cycles Closed by Edits

A job that is added and a job whose needs are replaced are one and the same change of the graph:
one id gets other targets. So every new cycle leaves this id by one of its new targets, and comes
back to it by needs that were there before.

The id of a new job keeps away from the ids of jobs, but not from what they need. A job may wait for
an id of no job, and then the new job can be the one that it waits for. This is how a new job can
have dependents, and how it can close a cycle with the jobs that it is appended to.

This complements `EditedNeeds`, where all needs name jobs.

## Layers

- **Edited graphs**: the id that gets other targets.
- **A new job** has the dependents that were there before it.
- **Replaced needs** close the cycles that they are on.
-/

namespace CiWorkflow.Workflow

open Relation

variable {w : Workflow} {id : String}

/-! ## Edited graphs -/

/-- Adding a job changes nobody's needs but its own. -/
theorem sameExcept_addJob (w : Workflow) (needs : List String) :
    SameExcept (w.addJob needs).2 w.needsOf (w.addJob needs).1.needsOf := by
  intro other hother
  rw [needsOf_addJob]
  exact if_neg (Ne.symm hother)

theorem sameExcept_setNeeds (h : id ∈ w.jobs.keys) (needs : List String) :
    SameExcept id w.needsOf (w.setNeeds id needs).needsOf := by
  intro other hother
  rw [needsOf_setNeeds h, if_neg hother]

/-! ## A new job -/

theorem needsOf_addJob_self (w : Workflow) (needs : List String) :
    (w.addJob needs).1.needsOf (w.addJob needs).2 = needs := by
  rw [needsOf_addJob]
  exact if_pos rfl

theorem addJob_id_not_mem (w : Workflow) (needs : List String) :
    (w.addJob needs).2 ∉ w.jobs.keys := freshJobId_not_mem w.jobs.keys

/-- What was needed is needed still, for the new job had no needs before. -/
theorem edge_addJob_of_edge (needs : List String) {a b : String} (hedge : Edge w.needsOf a b) :
    Edge (w.addJob needs).1.needsOf a b := by
  refine (w.sameExcept_addJob needs).edge ?_ hedge
  -- the old edge comes from a job, and the new id was none
  rintro rfl
  exact w.addJob_id_not_mem needs (Requires.mem_keys hedge)

/-- The new job is required by those who named its id before it was there. -/
theorem requires_addJob_iff {needs : List String} (hneeds : ∀ need ∈ needs, need ∈ w.jobs.keys) :
    Requires (w.addJob needs).1.jobs id (w.addJob needs).2 ↔
      Requires w.jobs id (w.addJob needs).2 := by
  refine ⟨fun hedge => ?_, edge_addJob_of_edge needs⟩
  refine (w.sameExcept_addJob needs).symm.edge ?_ hedge
  -- all needs of the new job are jobs that were there before, so it does not need itself
  rintro rfl
  have hself : (w.addJob needs).2 ∈ (w.addJob needs).1.needsOf (w.addJob needs).2 := hedge
  rw [needsOf_addJob_self] at hself
  exact w.addJob_id_not_mem needs (hneeds _ hself)

/-- A new job is on a cycle where one of its needs was waiting for it. -/
theorem cyclic_addJob_iff {needs : List String} (hneeds : ∀ need ∈ needs, need ∈ w.jobs.keys) :
    Cyclic (w.addJob needs).1.jobs ↔
      Cyclic w.jobs ∨ ∃ need ∈ needs, Precedes w.needsOf need (w.addJob needs).2 := by
  have hsame := w.sameExcept_addJob needs
  constructor
  · rintro ⟨v, hcycle⟩
    refine (hsame.exists_onCycle hcycle).imp_right ?_
    rw [needsOf_addJob_self]
    rintro ⟨need, hneed, hback⟩
    -- the way back has an edge, since the new job is none of its own needs
    rcases reflTransGen_iff_eq_or_transGen.mp hback with heq | hpath
    · exact absurd (heq ▸ hneeds need hneed) (w.addJob_id_not_mem needs)
    · exact ⟨need, hneed, hpath⟩
  · rintro (⟨v, hcycle⟩ | ⟨need, hneed, hpath⟩)
    · exact ⟨v, TransGen.mono (fun _ _ => edge_addJob_of_edge needs) v v hcycle⟩
    · refine ⟨(w.addJob needs).2, hsame.onCycle_iff.mpr ⟨need, ?_, hpath.to_reflTransGen⟩⟩
      rwa [needsOf_addJob_self]

/-- **A new job has the dependents that were there before it.** A job that is added and needs other
jobs is needed by just those jobs that named its id before. A circular dependency is reported if one
was before, and else exactly where one of its needs led to its id. So a new job whose id was not
named has no dependents and closes no cycle. -/
theorem addJob_dependents_iff (options : LintOptions) (w : Workflow) (needs : List String)
    (hneeds : ∀ need ∈ needs, need ∈ w.jobs.keys) :
    (∀ id, Requires (w.addJob needs).1.jobs id (w.addJob needs).2 ↔
      Requires w.jobs id (w.addJob needs).2) ∧
    ((∃ d ∈ (w.addJob needs).1.lintWith options, d.ReportsCycle) ↔
      (∃ d ∈ w.lintWith options, d.ReportsCycle) ∨
        ∃ need ∈ needs, Precedes w.needsOf need (w.addJob needs).2) ∧
    ((∀ id, ¬Requires w.jobs id (w.addJob needs).2) →
      (∀ id, ¬Requires (w.addJob needs).1.jobs id (w.addJob needs).2) ∧
      ((∀ d ∈ w.lintWith options, ¬d.ReportsCycle) →
        ∀ d ∈ (w.addJob needs).1.lintWith options, ¬d.ReportsCycle)) := by
  have hdependents : ∀ id, Requires (w.addJob needs).1.jobs id (w.addJob needs).2 ↔
      Requires w.jobs id (w.addJob needs).2 := fun id => requires_addJob_iff hneeds
  have hcycles : (∃ d ∈ (w.addJob needs).1.lintWith options, d.ReportsCycle) ↔
      (∃ d ∈ w.lintWith options, d.ReportsCycle) ∨
        ∃ need ∈ needs, Precedes w.needsOf need (w.addJob needs).2 := by
    rw [exists_reportsCycle_iff, exists_reportsCycle_iff]
    exact cyclic_addJob_iff hneeds
  refine ⟨hdependents, hcycles, fun hfree => ⟨fun id => ?_, fun hacyclic d hd hreports => ?_⟩⟩
  · rw [hdependents]
    exact hfree id
  · rcases hcycles.mp ⟨d, hd, hreports⟩ with ⟨d, hd, hreports⟩ | ⟨need, _, hpath⟩
    · exact hacyclic d hd hreports
    · -- the last edge of a path to the new id comes from a job that named it
      obtain ⟨last, _, hlast⟩ := TransGen.tail'_iff.mp hpath
      exact hfree last hlast

/-- Nobody names the new id in the sample, and so no cycle is closed. -/
theorem addJob_dependents_iff_sample :
    (∀ need ∈ ["test", "build"], need ∈ sample.jobs.keys) ∧
    (∀ id, ¬Requires sample.jobs id (sample.addJob ["test", "build"]).2) ∧
    (sample.addJob ["test", "build"]).2 = "job-1" ∧
    (∀ id, ¬Requires (sample.addJob ["test", "build"]).1.jobs id "job-1") ∧
    ((∀ d ∈ sample.lint, ¬d.ReportsCycle) →
      ∀ d ∈ (sample.addJob ["test", "build"]).1.lint, ¬d.ReportsCycle) := by
  have hneeds : ∀ need ∈ ["test", "build"], need ∈ sample.jobs.keys := by decide +kernel
  have hid : (sample.addJob ["test", "build"]).2 = "job-1" := by decide +kernel
  have hnamed : ∀ id ∈ sample.jobs.keys, "job-1" ∉ sample.needsOf id := by decide +kernel
  have hfree : ∀ id, ¬Requires sample.jobs id (sample.addJob ["test", "build"]).2 := by
    intro id hedge
    rw [hid] at hedge
    exact hnamed id hedge.mem_keys hedge
  obtain ⟨hdependents, hcycles⟩ :=
    (addJob_dependents_iff {} sample ["test", "build"] hneeds).2.2 hfree
  rw [hid] at hdependents
  exact ⟨hneeds, hfree, hid, hdependents, hcycles⟩

/-- A job that waits for one that is not there, under the id that comes next. -/
def awaiting : Workflow :=
  { on := .event "push"
    jobs := .ofList [("b", { needs := some (.one "job-1"), steps := [.ofCommand "x"] })] }

/-- The new job is waited for, and if it is appended behind the job that waits, the two close a
cycle where none was reported. -/
theorem addJob_dependent_awaiting :
    (∀ need ∈ ["b"], need ∈ awaiting.jobs.keys) ∧
    (awaiting.addJob ["b"]).2 = "job-1" ∧
    Requires (awaiting.addJob ["b"]).1.jobs "b" "job-1" ∧
    (∀ d ∈ awaiting.lint, ¬d.ReportsCycle) ∧
    ∃ d ∈ (awaiting.addJob ["b"]).1.lint, d.ReportsCycle := by
  have hedge : Requires (awaiting.addJob ["b"]).1.jobs "b" "job-1" := by
    show "job-1" ∈ (awaiting.addJob ["b"]).1.needsOf "b"
    decide +kernel
  have hback : "b" ∈ (awaiting.addJob ["b"]).1.needsOf "job-1" := by decide +kernel
  have hnone : Lint.cycleJobs awaiting.jobs = [] := by decide +kernel
  exact ⟨by decide +kernel, by decide +kernel, hedge,
    forall_not_reportsCycle_iff.mpr (Lint.cycleJobs_eq_nil_iff.mp hnone),
    exists_reportsCycle_iff.mpr ⟨"b", .tail (.single hedge) hback⟩⟩

/-! ## Replaced needs -/

/-- A new cycle goes through the job whose needs are new, by one of them. -/
theorem cyclic_setNeeds_iff (hacyclic : ¬Cyclic w.jobs) (hid : id ∈ w.jobs.keys)
    (needs : List String) :
    Cyclic (w.setNeeds id needs).jobs ↔ ∃ need ∈ needs, Reaches w.needsOf need id := by
  have hsame := sameExcept_setNeeds hid needs
  have hnew : (w.setNeeds id needs).needsOf id = needs := by
    rw [needsOf_setNeeds hid, if_pos rfl]
  constructor
  · rintro ⟨v, hcycle⟩
    rw [← hnew]
    exact (hsame.exists_onCycle hcycle).resolve_left hacyclic
  · rintro ⟨need, hneed, hback⟩
    exact ⟨id, hsame.onCycle_iff.mpr ⟨need, hnew.symm ▸ hneed, hback⟩⟩

/-- **Replaced needs are flagged exactly where they close a cycle.** Where no circular dependency is
reported, one is reported after the needs of a job are replaced if and only if one of the new needs
is the job itself or needs it, at once or through others. Needs may be repeated, and need not be
jobs. -/
theorem setNeeds_reportsCycle_iff (options : LintOptions) (w : Workflow)
    (hacyclic : ∀ d ∈ w.lintWith options, ¬d.ReportsCycle) (id : String) (hid : id ∈ w.jobs.keys)
    (needs : List String) :
    (∃ d ∈ (w.setNeeds id needs).lintWith options, d.ReportsCycle) ↔
      ∃ need ∈ needs, need = id ∨ Precedes w.needsOf need id := by
  rw [exists_reportsCycle_iff, cyclic_setNeeds_iff (forall_not_reportsCycle_iff.mp hacyclic) hid]
  -- a path to the job may have no edge, and then the need is the job itself
  refine exists_congr fun need => and_congr_right fun _ => ?_
  exact reflTransGen_iff_eq_or_transGen.trans (or_congr_left eq_comm)

/-- Three jobs in a row, of which the last one needs a missing job too. -/
def chained : Workflow :=
  { on := .event "push"
    jobs := .ofList [("c", { needs := some (.many ["b", "ghost"]), steps := [.ofCommand "x"] }),
      ("b", { needs := some (.one "a"), steps := [.ofCommand "x"] }),
      ("a", { steps := [.ofCommand "x"] })] }

/-- The end of the row closes a cycle for the job in front, and the missing job does not. -/
theorem setNeeds_reportsCycle_chained :
    (∀ d ∈ chained.lint, ¬d.ReportsCycle) ∧ "a" ∈ chained.jobs.keys ∧
    (∃ d ∈ (chained.setNeeds "a" ["ghost", "c"]).lint, d.ReportsCycle) ∧
    ¬∃ d ∈ (chained.setNeeds "a" ["ghost", "ghost"]).lint, d.ReportsCycle := by
  have hnone : Lint.cycleJobs chained.jobs = [] := by decide +kernel
  have hacyclic : ∀ d ∈ chained.lint, ¬d.ReportsCycle :=
    forall_not_reportsCycle_iff.mpr (Lint.cycleJobs_eq_nil_iff.mp hnone)
  have hid : "a" ∈ chained.jobs.keys := by decide +kernel
  have hcb : Edge chained.needsOf "c" "b" := by
    show "b" ∈ chained.needsOf "c"
    decide +kernel
  have hba : Edge chained.needsOf "b" "a" := by
    show "a" ∈ chained.needsOf "b"
    decide +kernel
  refine ⟨hacyclic, hid, ?_, ?_⟩
  · apply (setNeeds_reportsCycle_iff {} chained hacyclic "a" hid ["ghost", "c"]).mpr
    exact ⟨"c", by simp, .inr (.tail (.single hcb) hba)⟩
  · intro hreports
    obtain ⟨need, hneed, hcloses⟩ :=
      (setNeeds_reportsCycle_iff {} chained hacyclic "a" hid ["ghost", "ghost"]).mp hreports
    have hghost : need = "ghost" := by simpa using hneed
    subst hghost
    rcases hcloses with heq | hpath
    · exact absurd heq (by decide)
    · -- the missing job is no job from which a path could begin
      obtain ⟨next, hedge, _⟩ := TransGen.head'_iff.mp hpath
      exact absurd (Requires.mem_keys hedge) (by decide +kernel)

end CiWorkflow.Workflow
