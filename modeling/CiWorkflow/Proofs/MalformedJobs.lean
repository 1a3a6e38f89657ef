import CiWorkflow.Proofs.JobEntries
import CiWorkflow.Proofs.UnknownEntries
/-!
# Malformed Jobs

Entries of jobs that are no mappings do no harm to the rest of a document. The workflow is the one
that is read where they are left out, and each of them whose key has a text is reported once, in
document order, also if that text is the id of a job.

This complements `JobEntries`, which is about what comes of all entries together.

## Layers

- **Entries of jobs**: the malformed ones, and what is read without them.
- **Roots**: without malformed jobs all other fields of a document are the same.
- **Documents**: the workflow and the problems of a text.
-/

namespace CiWorkflow

open Yaml (Value Entries)

/-! ## Entries of jobs -/

/-- Whether an entry holds a mapping without a tag. -/
def holdsMapping : Value × Value → Bool
  | (_, .mapping _) => true
  | _ => false

/-- Whether the key of an entry is a text, a number or a truth value without a tag. -/
def hasScalarKey : Value × Value → Bool
  | (.string _, _) | (.number _, _) | (.bool _, _) => true
  | _ => false

/-- The entries that hold mappings. -/
def wellFormedJobs (jobs : Entries) : Entries := jobs.filter holdsMapping

/-- The entries that do not hold mappings. -/
def malformedJobs (jobs : Entries) : Entries := jobs.filter fun e => !holdsMapping e

/-- A problem says by the text of the key that an entry is malformed. -/
def ReadProblem.Reports (p : ReadProblem) (e : Value × Value) : Prop :=
  ∃ id, e.1.scalarText? = some id ∧ p = .jobNotMapping id

/-- Only keys with a text can be named in a problem. -/
theorem isSome_scalarText? (e : Value × Value) : e.1.scalarText?.isSome = hasScalarKey e := by
  obtain ⟨key, value⟩ := e
  cases key <;> rfl

theorem problemOfEntry?_of_holdsMapping {e : Value × Value} (h : holdsMapping e = true) :
    problemOfEntry? e = none := by
  obtain ⟨key, value⟩ := e
  cases value with
  | mapping fields => rfl
  | null | bool _ | number _ | string _ | sequence _ | tagged _ _ => cases h

/-- What comes of a malformed entry is no job, but a problem if its key has a text. -/
theorem reading_of_malformed {e : Value × Value} (h : holdsMapping e = false) :
    jobOfEntry? e = none ∧ problemOfEntry? e = e.1.scalarText?.map .jobNotMapping := by
  obtain ⟨key, value⟩ := e
  cases value with
  | mapping fields => cases h
  | null | bool _ | number _ | string _ | sequence _ | tagged _ _ => exact ⟨rfl, rfl⟩

/-- Jobs are read of well-formed entries only. -/
theorem filterMap_jobOfEntry?_wellFormedJobs (jobs : Entries) :
    (wellFormedJobs jobs).filterMap jobOfEntry? = jobs.filterMap jobOfEntry? := by
  rw [wellFormedJobs, List.filterMap_filter]
  apply List.filterMap_congr
  intro e _
  cases hmapping : holdsMapping e with
  | true => rw [if_pos rfl]
  | false => rw [if_neg Bool.false_ne_true, (reading_of_malformed hmapping).1]

/-- No well-formed entry is reported. -/
theorem filterMap_problemOfEntry?_wellFormedJobs (jobs : Entries) :
    (wellFormedJobs jobs).filterMap problemOfEntry? = [] := by
  rw [List.filterMap_eq_nil_iff]
  intro e he
  exact problemOfEntry?_of_holdsMapping (List.mem_filter.mp he).2

/-- The malformed entries whose keys are scalars are reported one by one. -/
theorem forall₂_reports (jobs : Entries) :
    List.Forall₂ (fun e p => ReadProblem.Reports p e)
      ((malformedJobs jobs).filter hasScalarKey) (jobs.filterMap problemOfEntry?) := by
  -- entry by entry, and a mapping counts on neither side
  induction jobs with
  | nil => exact .nil
  | cons e rest ih =>
    rw [malformedJobs, List.filter_cons]
    cases hmapping : holdsMapping e with
    | true =>
      rw [if_neg (by simp), List.filterMap_cons_none (problemOfEntry?_of_holdsMapping hmapping)]
      exact ih
    | false =>
      have hproblem := (reading_of_malformed hmapping).2
      rw [if_pos (by simp), List.filter_cons, ← isSome_scalarText?]
      cases hkey : e.1.scalarText? with
      | none =>
        rw [hkey, Option.map_none] at hproblem
        rw [if_neg (by simp), List.filterMap_cons_none hproblem]
        exact ih
      | some id =>
        rw [hkey, Option.map_some] at hproblem
        rw [if_pos (by simp), List.filterMap_cons_some hproblem]
        exact .cons ⟨id, hkey, rfl⟩ ih

/-! ## Roots -/

/-- Jobs without the entries that do not hold mappings. What is no mapping of jobs stays as it
is. -/
def withoutMalformed : Value → Value
  | .mapping jobs => .mapping (wellFormedJobs jobs)
  | v => v

/-- An entry of a document: the jobs are left without malformed entries. -/
def intactEntry (e : Value × Value) : Value × Value :=
  if e.1 = .string "jobs" then (e.1, withoutMalformed e.2) else e

/-- A document without the entries of its jobs that do not hold mappings. -/
def withoutMalformedJobs (root : Entries) : Entries := root.map intactEntry

theorem fst_intactEntry (e : Value × Value) : (intactEntry e).1 = e.1 := by
  unfold intactEntry
  split <;> rfl

/-- Looking up a key finds what it found before, without malformed jobs. -/
theorem get?_withoutMalformedJobs (root : Entries) (key : String) :
    (withoutMalformedJobs root).get? key =
      (root.get? key).map fun v => if key = "jobs" then withoutMalformed v else v := by
  unfold Entries.get? withoutMalformedJobs
  -- the keys are as before, so the entry that is found stands at the same place
  rw [List.find?_map, Option.map_map, Option.map_map]
  simp only [Function.comp_def, fst_intactEntry]
  cases hfind : root.find? fun e => e.1 == .string key with
  | none => rfl
  | some e =>
    have hkey : e.1 = .string key := by simpa using List.find?_some hfind
    simp only [Option.map_some, intactEntry, hkey, Value.string.injEq]
    split <;> rfl

theorem field?_withoutMalformedJobs {root : Entries} {key : String} (hkey : key ≠ "jobs") :
    field? (withoutMalformedJobs root) key = field? root key := by
  unfold field?
  rw [get?_withoutMalformedJobs]
  simp only [if_neg hkey, Option.map_id']

theorem field?_jobs_withoutMalformedJobs {root jobs : Entries}
    (hjobs : field? root "jobs" = some (.mapping jobs)) :
    field? (withoutMalformedJobs root) "jobs" = some (.mapping (wellFormedJobs jobs)) := by
  unfold field? at hjobs ⊢
  rw [get?_withoutMalformedJobs, (Option.filter_eq_some_iff.mp hjobs).1]
  rfl

/-- Jobs are a field, so nothing of them is carried along. -/
theorem passthrough_withoutMalformedJobs (root : Entries) :
    passthrough workflowKeys (withoutMalformedJobs root) = passthrough workflowKeys root := by
  have hothers : ∀ e ∈ passthrough workflowKeys root, intactEntry e = id e :=
    fun e he => if_neg (ne_of_mem_passthrough he (by decide))
  calc passthrough workflowKeys (withoutMalformedJobs root)
      = (passthrough workflowKeys root).map intactEntry := by
        unfold passthrough withoutMalformedJobs
        rw [List.filter_map]
        simp only [Function.comp_def, fst_intactEntry]
    _ = passthrough workflowKeys root := by rw [List.map_congr_left hothers, List.map_id]

/-- Everything of a document but its jobs is read as before. -/
theorem headOfEntries_withoutMalformedJobs (root : Entries) :
    Workflow.headOfEntries (withoutMalformedJobs root) = Workflow.headOfEntries root := by
  unfold Workflow.headOfEntries
  rw [passthrough_withoutMalformedJobs]
  simp only [field?_withoutMalformedJobs, ne_eq, String.reduceEq, not_false_eq_true]

/-! ## Documents -/

namespace Workflow

/-- Without its malformed jobs a document is read as the same workflow, and without problems. -/
theorem ofEntries_withoutMalformedJobs {root jobs : Entries}
    (hjobs : field? root "jobs" = some (.mapping jobs)) :
    ofEntries (withoutMalformedJobs root) = ⟨(ofEntries root).workflow, []⟩ := by
  unfold ofEntries
  rw [field?_jobs_withoutMalformedJobs hjobs, hjobs, headOfEntries_withoutMalformedJobs]
  dsimp only
  rw [filterMap_jobOfEntry?_wellFormedJobs, filterMap_problemOfEntry?_wellFormedJobs]

/-- **Malformed jobs are isolated.** Where the entries of jobs that are no mappings are left out of
a document, the same workflow is read, and no problem is left. With them, there is one problem for
each of them whose key is a scalar, in document order, which gives the text of the key. -/
theorem malformedJobs_isolated {text : String} {root jobs : Entries}
    (hroot : Value.ofText text = .ok (.mapping root))
    (hjobs : field? root "jobs" = some (.mapping jobs)) :
    ofValue (.mapping (withoutMalformedJobs root)) = ⟨(ofText text).workflow, []⟩ ∧
    (∀ text', Value.ofText text' = .ok (.mapping (withoutMalformedJobs root)) →
      ofText text' = ⟨(ofText text).workflow, []⟩) ∧
    List.Forall₂ (fun e p => ReadProblem.Reports p e)
      ((malformedJobs jobs).filter hasScalarKey) (ofText text).problems := by
  have hvalue : ofValue (.mapping (withoutMalformedJobs root)) = ⟨(ofText text).workflow, []⟩ := by
    rw [ofText_of_ok hroot]
    exact ofEntries_withoutMalformedJobs hjobs
  refine ⟨hvalue, fun text' hroot' => ?_, ?_⟩
  · rw [ofText_of_ok hroot', hvalue]
  · rw [ofText_of_jobs hroot hjobs]
    exact forall₂_reports jobs

/-- Jobs of which some are no mappings: one under the id of a job, one behind a tag, and one whose
key is no scalar. -/
def interspersedJobs : String :=
  "on: push\njobs:\n  1: true\n  '1': {}\n  b: !t {}\n  ~: x\n  c:\n    needs: b\n  d: []\n" ++
    "name: x\n"

/-- The same jobs without those that are no mappings. -/
def intactJobs : String :=
  "on: push\njobs:\n  '1': {}\n  c:\n    needs: b\nname: x\n"

/-- The entries of these jobs. -/
def interspersedEntries : Entries :=
  [(.number (.int 1), .bool true), (.string "1", .mapping []),
    (.string "b", .tagged "t" (.mapping [])), (.null, .string "x"),
    (.string "c", .mapping [(.string "needs", .string "b")]), (.string "d", .sequence [])]

/-- The entries of the whole document. -/
def interspersedRoot : Entries :=
  [(.string "on", .string "push"), (.string "jobs", .mapping interspersedEntries),
    (.string "name", .string "x")]

/-- One malformed entry has no text for a key, and one stands before a job with the same id. -/
theorem malformedJobs_isolated_interspersed :
    Value.ofText interspersedJobs = .ok (.mapping interspersedRoot) ∧
    field? interspersedRoot "jobs" = some (.mapping interspersedEntries) ∧
    Value.ofText intactJobs = .ok (.mapping (withoutMalformedJobs interspersedRoot)) ∧
    (ofText interspersedJobs).workflow.jobs.keys = ["1", "c"] ∧
    (ofText interspersedJobs).problems =
      [.jobNotMapping "1", .jobNotMapping "b", .jobNotMapping "d"] ∧
    ofText intactJobs = ⟨(ofText interspersedJobs).workflow, []⟩ ∧
    List.Forall₂ (fun e p => ReadProblem.Reports p e)
      ((malformedJobs interspersedEntries).filter hasScalarKey)
      (ofText interspersedJobs).problems := by
  have hroot : Value.ofText interspersedJobs = .ok (.mapping interspersedRoot) := by decide +kernel
  have hjobs : field? interspersedRoot "jobs" = some (.mapping interspersedEntries) := by
    decide +kernel
  have hintact : Value.ofText intactJobs =
      .ok (.mapping (withoutMalformedJobs interspersedRoot)) := by decide +kernel
  have hkeys : (ofText interspersedJobs).workflow.jobs.keys = ["1", "c"] := by
    rw [ofText_of_jobs hroot hjobs]
    decide +kernel
  have hproblems : (ofText interspersedJobs).problems =
      [.jobNotMapping "1", .jobNotMapping "b", .jobNotMapping "d"] := by
    rw [ofText_of_jobs hroot hjobs]
    decide +kernel
  obtain ⟨_, hsame, hreports⟩ := malformedJobs_isolated hroot hjobs
  exact ⟨hroot, hjobs, hintact, hkeys, hproblems, hsame intactJobs hintact, hreports⟩

end Workflow

end CiWorkflow
