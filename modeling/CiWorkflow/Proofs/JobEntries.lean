import CiWorkflow.Proofs.RoundTrip
/-!
# Entries of Jobs

Every entry of the jobs of a document should come to something: a job of its own if it holds a
mapping, and a problem that names it otherwise. What names an entry is the text of its key, so this
is so for all entries if every key has a text, and no two jobs have keys of the same text. Where the
keys are not of that kind, an entry is lost without a problem: one without a text is passed over,
and of the jobs with keys of one text, such as a number and its digits as a string, only the last
is kept.

## Layers

- **One entry**: what comes of it, by its key and its value.
- **All entries**: jobs and problems in document order, as many as there are entries.
- **Documents**: the jobs and problems of a text.
-/

namespace CiWorkflow

open Yaml (Value Entries)

/-! ## One entry -/

/-- What comes of an entry: nothing, a job, or a problem. -/
theorem jobOfEntry?_cases (key value : Value) :
    (key.scalarText? = none ∧ jobOfEntry? (key, value) = none ∧
      problemOfEntry? (key, value) = none) ∨
    (∃ id fields, key.scalarText? = some id ∧ value = .mapping fields ∧
      jobOfEntry? (key, value) = some (id, .ofEntries fields) ∧
      problemOfEntry? (key, value) = none) ∨
    ∃ id, key.scalarText? = some id ∧ (∀ fields, value ≠ .mapping fields) ∧
      jobOfEntry? (key, value) = none ∧
      problemOfEntry? (key, value) = some (.jobNotMapping id) := by
  cases hkey : key.scalarText? with
  | none =>
    refine .inl ⟨rfl, ?_⟩
    cases value <;> simp [hkey, jobOfEntry?, problemOfEntry?]
  | some id =>
    refine .inr ?_
    cases value with
    | mapping fields => exact .inl ⟨id, fields, rfl, rfl, by simp [hkey, jobOfEntry?], rfl⟩
    | null | bool _ | number _ | string _ | sequence _ | tagged _ _ =>
      exact .inr ⟨id, rfl, nofun, rfl, by simp [hkey, problemOfEntry?]⟩

/-- A job is read of a mapping whose key has a text, which is its id. -/
theorem jobOfEntry?_eq_some_iff {entry : Value × Value} {id : String} {job : Job} :
    jobOfEntry? entry = some (id, job) ↔
      ∃ fields, entry.1.scalarText? = some id ∧ entry.2 = .mapping fields ∧
        job = .ofEntries fields := by
  obtain ⟨key, value⟩ := entry
  rcases jobOfEntry?_cases key value with
    ⟨hkey, hjob, _⟩ | ⟨id', fields, hkey, rfl, hjob, _⟩ | ⟨id', hkey, hvalue, hjob, _⟩
  · simp [hkey, hjob]
  · simp [hkey, hjob, eq_comm]
  · simp [hjob, hvalue]

/-! ## All entries -/

/-- Jobs and problems that account for entries, in their order: an entry yields a job under the text
of its key, with what its mapping says, or is reported by a problem that gives the text. -/
inductive Accounted : Entries → List (String × Job) → List ReadProblem → Prop where
  /-- No entry. -/
  | nil : Accounted [] [] []
  /-- The first entry yields the first job. -/
  | job {key : Value} {id : String} {fields entries : Entries} {jobs : List (String × Job)}
      {problems : List ReadProblem} (hkey : key.scalarText? = some id)
      (hrest : Accounted entries jobs problems) :
      Accounted ((key, .mapping fields) :: entries) ((id, .ofEntries fields) :: jobs) problems
  /-- The first problem reports the first entry. -/
  | problem {key value : Value} {id : String} {entries : Entries} {jobs : List (String × Job)}
      {problems : List ReadProblem} (hkey : key.scalarText? = some id)
      (hvalue : ∀ fields, value ≠ .mapping fields) (hrest : Accounted entries jobs problems) :
      Accounted ((key, value) :: entries) jobs (.jobNotMapping id :: problems)

/-- Every entry is a job or a problem, so the numbers add up. -/
theorem Accounted.length_add {entries : Entries} {jobs : List (String × Job)}
    {problems : List ReadProblem} (h : Accounted entries jobs problems) :
    jobs.length + problems.length = entries.length := by
  induction h with
  | nil => rfl
  | job _ _ ih =>
    simp only [List.length_cons]
    omega
  | problem _ _ _ ih =>
    simp only [List.length_cons]
    omega

/-- The entries whose keys have a text. -/
def namedEntries (entries : Entries) : Entries := entries.filter fun e => e.1.scalarText?.isSome

/-- The entries whose keys have a text come to jobs and problems one by one. -/
theorem accounted_namedEntries (entries : Entries) :
    Accounted (namedEntries entries) (entries.filterMap jobOfEntry?)
      (entries.filterMap problemOfEntry?) := by
  induction entries with
  | nil => exact .nil
  | cons e rest ih =>
    obtain ⟨key, value⟩ := e
    rw [namedEntries, List.filter_cons]
    -- without a name the entry is left out on all sides, and else it is a job or a problem
    rcases jobOfEntry?_cases key value with
      ⟨hkey, hjob, hproblem⟩ | ⟨id, fields, hkey, rfl, hjob, hproblem⟩ |
      ⟨id, hkey, hvalue, hjob, hproblem⟩
    · rw [if_neg (by simp [hkey]), List.filterMap_cons_none hjob,
        List.filterMap_cons_none hproblem]
      exact ih
    · rw [if_pos (by simp [hkey]), List.filterMap_cons_some hjob,
        List.filterMap_cons_none hproblem]
      exact .job hkey ih
    · rw [if_pos (by simp [hkey]), List.filterMap_cons_none hjob,
        List.filterMap_cons_some hproblem]
      exact .problem hkey hvalue ih

/-- The entries of jobs can be told apart: every key has a text, and no two keys of mappings have
the same one. -/
structure DistinctJobs (entries : Entries) : Prop where
  /-- Every entry has a name. -/
  named : ∀ e ∈ entries, e.1.scalarText? ≠ none
  /-- No two jobs have the same name. -/
  apart : entries.Pairwise fun d e => ∀ fields others, d.2 = .mapping fields →
    e.2 = .mapping others → d.1.scalarText? ≠ e.1.scalarText?

/-- Entries are all named exactly where there are as many named ones. -/
theorem length_namedEntries_eq_iff {entries : Entries} :
    (namedEntries entries).length = entries.length ↔ ∀ e ∈ entries, e.1.scalarText? ≠ none := by
  rw [namedEntries, List.length_filter_eq_length_iff]
  simp only [Option.isSome_iff_ne_none]

/-- No two jobs have the same id exactly where no two mappings have keys of the same text. -/
theorem nodup_jobIds_iff {entries : Entries} (hnamed : ∀ e ∈ entries, e.1.scalarText? ≠ none) :
    ((entries.filterMap jobOfEntry?).map Prod.fst).Nodup ↔
      entries.Pairwise fun d e => ∀ fields others, d.2 = .mapping fields →
        e.2 = .mapping others → d.1.scalarText? ≠ e.1.scalarText? := by
  -- both sides compare entries two by two, and only entries that are jobs count
  rw [List.Nodup, List.pairwise_map, List.pairwise_filterMap]
  apply List.Pairwise.iff_of_mem
  intro d e hd he
  obtain ⟨id, hid⟩ := Option.ne_none_iff_exists'.mp (hnamed d hd)
  obtain ⟨other, hother⟩ := Option.ne_none_iff_exists'.mp (hnamed e he)
  rw [hid, hother]
  constructor
  · intro h fields others hfields hothers heq
    have hjob := jobOfEntry?_eq_some_iff.mpr ⟨fields, hid, hfields, rfl⟩
    have hnext := jobOfEntry?_eq_some_iff.mpr ⟨others, hother, hothers, rfl⟩
    exact h _ hjob _ hnext (Option.some.inj heq)
  · rintro h ⟨idOfJob, job⟩ hjob ⟨idOfNext, next⟩ hnext rfl
    obtain ⟨fields, hkey, hfields, _⟩ := jobOfEntry?_eq_some_iff.mp hjob
    obtain ⟨others, hnextKey, hothers, _⟩ := jobOfEntry?_eq_some_iff.mp hnext
    exact h fields others hfields hothers (by rw [← hid, ← hother, hkey, hnextKey])

/-! ## Documents -/

namespace Workflow

/-- The jobs and problems of a document whose root holds a mapping of jobs. -/
theorem ofText_of_jobs {text : String} {root jobs : Entries}
    (hroot : Value.ofText text = .ok (.mapping root))
    (hjobs : field? root "jobs" = some (.mapping jobs)) :
    ofText text = ⟨{ headOfEntries root with jobs := .ofList (jobs.filterMap jobOfEntry?) },
      jobs.filterMap problemOfEntry?⟩ := by
  rw [ofText_of_ok hroot, ofValue, ofEntries, hjobs]

/-- **Entries of jobs that can be told apart are all accounted for**, and no others are. Where every
key has a text and no two jobs the same one, each entry yields its own job or is reported by one
problem, in document order; and it is only there that as many jobs and problems come of the entries
as there are. There are never more of them. -/
theorem jobs_accounted_iff {text : String} {root jobs : Entries}
    (hroot : Value.ofText text = .ok (.mapping root))
    (hjobs : field? root "jobs" = some (.mapping jobs)) :
    (Accounted jobs (ofText text).workflow.jobs.entries (ofText text).problems ↔
      DistinctJobs jobs) ∧
    ((ofText text).workflow.jobs.size + (ofText text).problems.length = jobs.length ↔
      DistinctJobs jobs) ∧
    (ofText text).workflow.jobs.size + (ofText text).problems.length ≤ jobs.length := by
  rw [ofText_of_jobs hroot hjobs]
  dsimp only
  -- entries are lost in two ways: without a text, and when a job comes in for another one
  have hread := (accounted_namedEntries jobs).length_add
  have hnamed : (namedEntries jobs).length ≤ jobs.length := List.length_filter_le ..
  have hsize := KeyedList.size_ofList_le (jobs.filterMap jobOfEntry?)
  have hcount : (KeyedList.ofList (jobs.filterMap jobOfEntry?)).size +
      (jobs.filterMap problemOfEntry?).length = jobs.length ↔ DistinctJobs jobs := by
    constructor
    · intro hall
      have hnames := length_namedEntries_eq_iff.mp
        (by omega : (namedEntries jobs).length = jobs.length)
      have hnodup := KeyedList.size_ofList_eq_iff.mp
        (by omega : (KeyedList.ofList (jobs.filterMap jobOfEntry?)).size =
          (jobs.filterMap jobOfEntry?).length)
      exact ⟨hnames, (nodup_jobIds_iff hnames).mp hnodup⟩
    · intro h
      have hnames := length_namedEntries_eq_iff.mpr h.named
      have hnodup := KeyedList.size_ofList_eq_iff.mpr ((nodup_jobIds_iff h.named).mpr h.apart)
      omega
  refine ⟨⟨fun h => hcount.mp h.length_add, fun h => ?_⟩, hcount, by omega⟩
  have hentries := KeyedList.entries_ofList ((nodup_jobIds_iff h.named).mpr h.apart)
  have hall : namedEntries jobs = jobs :=
    List.filter_eq_self.mpr fun e he => Option.isSome_iff_ne_none.mpr (h.named e he)
  have haccounted := accounted_namedEntries jobs
  rwa [hall, ← hentries] at haccounted

/-- Jobs of which one is no mapping. The keys of two are a number and its digits. -/
def mixedJobs : String := "jobs:\n  b: {}\n  1: true\n  '1': {}\n"

/-- The entries of these jobs. -/
def mixedEntries : Entries :=
  [(.string "b", .mapping []), (.number (.int 1), .bool true), (.string "1", .mapping [])]

/-- What stands under the number is a problem and no job, so the job under its digits is kept. -/
theorem jobs_accounted_iff_mixed :
    Value.ofText mixedJobs = .ok (.mapping [(.string "jobs", .mapping mixedEntries)]) ∧
    field? [(.string "jobs", .mapping mixedEntries)] "jobs" = some (.mapping mixedEntries) ∧
    DistinctJobs mixedEntries ∧
    Accounted mixedEntries (ofText mixedJobs).workflow.jobs.entries
      (ofText mixedJobs).problems := by
  have hroot : Value.ofText mixedJobs =
      .ok (.mapping [(.string "jobs", .mapping mixedEntries)]) := by decide +kernel
  have hjobs : field? [(.string "jobs", .mapping mixedEntries)] "jobs" =
      some (.mapping mixedEntries) := by decide +kernel
  obtain ⟨haccounted, hcount, _⟩ := jobs_accounted_iff hroot hjobs
  have hdistinct : DistinctJobs mixedEntries := hcount.mp (by decide +kernel)
  exact ⟨hroot, hjobs, hdistinct, haccounted.mpr hdistinct⟩

/-- Two jobs whose keys are a number and its digits. -/
def collidingJobs : String := "jobs:\n  1: {}\n  '1':\n    name: x\n"

/-- The entries of these jobs. -/
def collidingEntries : Entries :=
  [(.number (.int 1), .mapping []), (.string "1", .mapping [(.string "name", .string "x")])]

/-- Of jobs whose keys have the same text one is lost without a problem. -/
theorem not_accounted_colliding :
    Value.ofText collidingJobs = .ok (.mapping [(.string "jobs", .mapping collidingEntries)]) ∧
    (ofText collidingJobs).workflow.jobs.keys = ["1"] ∧
    (ofText collidingJobs).problems = [] ∧
    ¬Accounted collidingEntries (ofText collidingJobs).workflow.jobs.entries
      (ofText collidingJobs).problems := by
  refine ⟨by decide +kernel, by decide +kernel, by decide +kernel, fun h => ?_⟩
  have hcount := h.length_add
  revert hcount
  decide +kernel

end Workflow

end CiWorkflow
