import CiWorkflow.Lint.Workflow
import CiWorkflow.Proofs.Needs
/-!
# Telling Diagnostics Apart

A diagnostic is a severity, a place and a message, and nothing in it says which check it comes from.
The messages say it: those about circular dependencies begin like no other error, and those about
jobs that do not exist end like no other error of the same beginning. So what the diagnostics of a
workflow hold says what a single check found.

## Layers

- **First and last characters** of the messages of all errors of a job.
- **Errors of a job**: which of them can be about cycles, and which about jobs that do not exist.
- **Errors of a workflow**, which are those of its triggers, of its needs and of its jobs.
-/

namespace CiWorkflow

/-! ## First and last characters -/

namespace Diagnostic

/-- The first character of the message. -/
def initial (d : Diagnostic) : Option Char := d.message.toList.head?

/-- The last character of the message. -/
def final (d : Diagnostic) : Option Char := d.message.toList.getLast?

@[simp] theorem isError_error (path message : String) : (error path message).isError = true := rfl

@[simp] theorem initial_error (path message : String) :
    (error path message).initial = message.toList.head? := rfl

@[simp] theorem initial_warning (path message : String) :
    (warning path message).initial = message.toList.head? := rfl

/-- The diagnostic is about a circular dependency. -/
def ReportsCycle (d : Diagnostic) : Prop := ∃ id, d = Lint.cycleDiagnostic id

/-- The diagnostic is about a need that names no job. -/
def ReportsMissingJob (d : Diagnostic) : Prop := ∃ id need, d = Lint.missingJobError id need

/-- The diagnostic is about a place, or about something inside of it. -/
def Within (place : String) (d : Diagnostic) : Prop := ∃ rest, d.path = place ++ rest

end Diagnostic

/-- The last character of a text that is put together comes from its last part that has any. -/
private theorem getLast?_toList_append (s t : String) :
    (s ++ t).toList.getLast? = t.toList.getLast?.or s.toList.getLast? := by
  rw [String.toList_append, List.getLast?_append]

namespace Lint

@[simp] theorem mem_report {condition : Bool} {d other : Diagnostic} :
    d ∈ report condition other ↔ condition = true ∧ d = other := by
  unfold report
  cases condition <;> simp

@[simp] theorem initial_cycleDiagnostic (id : String) :
    (cycleDiagnostic id).initial = some 'C' := by
  simp [cycleDiagnostic]

@[simp] theorem initial_missingJobError (id need : String) :
    (missingJobError id need).initial = some 'J' := by
  simp [missingJobError]

@[simp] theorem final_missingJobError (id need : String) :
    (missingJobError id need).final = some 't' := by
  show ("Job \"" ++ id ++ "\" depends on job \"" ++ need ++
    "\" which does not exist").toList.getLast? = some 't'
  rw [getLast?_toList_append]
  simp

/-- From the diagnostic one can tell the job. -/
theorem cycleDiagnostic_injective {id id' : String}
    (h : cycleDiagnostic id = cycleDiagnostic id') : id = id' := by
  simpa [cycleDiagnostic, Diagnostic.error] using h

/-- From the diagnostic one can tell both ids, though they stand in one message. -/
theorem missingJobError_injective {id id' need need' : String}
    (h : missingJobError id need = missingJobError id' need') : id = id' ∧ need = need' := by
  have hpath := congrArg Diagnostic.path h
  have hid : id = id' := by simpa [missingJobError, Diagnostic.error, jobPath] using hpath
  subst hid
  exact ⟨rfl, by simpa [missingJobError, Diagnostic.error] using h⟩

/-! ## Errors of a job -/

/-- A need is reported just where no job has its id. -/
theorem mem_checkNeeds {ids needs : List String} {id : String} {d : Diagnostic} :
    d ∈ checkNeeds ids id needs ↔ ∃ need ∈ needs, need ∉ ids ∧ d = missingJobError id need := by
  simp only [checkNeeds, List.mem_map, List.mem_filter, Bool.not_eq_true', List.contains_eq_mem,
    decide_eq_false_iff_not]
  constructor
  · rintro ⟨need, ⟨hneed, hmissing⟩, rfl⟩
    exact ⟨need, hneed, hmissing, rfl⟩
  · rintro ⟨need, hneed, hmissing, rfl⟩
    exact ⟨need, ⟨hneed, hmissing⟩, rfl⟩

/-- The error about a job without a runner. -/
private theorem chars_missingRunner (id : String) :
    let d := Diagnostic.error (jobPath id ++ ".runs-on")
      ("Job \"" ++ id ++ "\" is missing required field \"runs-on\"")
    d.initial = some 'J' ∧ d.final = some '"' := by
  constructor
  · simp
  · show ("Job \"" ++ id ++ "\" is missing required field \"runs-on\"").toList.getLast? = some '"'
    rw [getLast?_toList_append]
    simp

/-- Errors about runners are quoted, unlike those about missing jobs, which begin with the same
letter. -/
theorem chars_of_error_checkRunner {options : LintOptions} {id : String} {runsOn : RunsOn}
    {d : Diagnostic} (h : d ∈ checkRunner options id runsOn) (herror : d.isError = true) :
    d.initial = some 'J' ∧ d.final = some '"' := by
  unfold checkRunner at h
  split at h
  · cases List.mem_singleton.mp h
    exact chars_missingRunner id
  · obtain ⟨label, _, rfl⟩ := List.mem_map.mp h
    cases herror

/-- Errors about a matrix are told from the rest by their first letter. -/
theorem initial_of_error_checkMatrix {id : String} {matrix : ValueMap} {d : Diagnostic}
    (h : d ∈ checkMatrix id matrix) (herror : d.isError = true) : d.initial = some 'M' := by
  rcases List.mem_append.mp h with hempty | hvalues
  · obtain ⟨_, rfl⟩ := mem_report.mp hempty
    cases herror
  · obtain ⟨e, _, rfl⟩ := List.mem_map.mp hvalues
    simp

theorem initial_of_error_checkStrategy {id : String} {strategy : Option Strategy} {d : Diagnostic}
    (h : d ∈ checkStrategy id strategy) (herror : d.isError = true) :
    d.initial = some 'M' ∨ d.initial = some 'm' := by
  unfold checkStrategy at h
  cases strategy with
  | none => cases h
  | some s =>
    rcases List.mem_append.mp h with hmatrix | hparallel
    · cases hvariables : s.matrix with
      | none => simp [hvariables] at hmatrix
      | some matrix =>
        simp only [hvariables, Option.map_some, Option.getD_some] at hmatrix
        exact .inl (initial_of_error_checkMatrix hmatrix herror)
    · obtain ⟨_, rfl⟩ := mem_report.mp hparallel
      right
      simp

theorem initial_of_error_checkStep {id : String} {index : Nat} {step : Step} {d : Diagnostic}
    (h : d ∈ checkStep id index step) (herror : d.isError = true) : d.initial = some 'S' := by
  unfold checkStep at h
  simp only [List.mem_append, mem_report] at h
  obtain (⟨_, rfl⟩ | ⟨_, rfl⟩) | ⟨_, rfl⟩ := h
  · simp
  · simp
  · cases herror

theorem initial_of_error_checkSteps {id : String} {steps : List Step} {d : Diagnostic}
    (h : d ∈ checkSteps id steps) (herror : d.isError = true) : d.initial = some 'S' := by
  unfold checkSteps at h
  split at h
  · cases List.mem_singleton.mp h
    cases herror
  · obtain ⟨ds, hds, hd⟩ := List.mem_flatten.mp h
    obtain ⟨index, hindex, rfl⟩ := List.mem_mapIdx.mp hds
    exact initial_of_error_checkStep hd herror

/-- No check of a job by itself tells of circular dependencies. -/
theorem cycleDiagnostic_not_mem_checkJob {options : LintOptions} {ids : List String}
    {id other : String} {j : Job} : cycleDiagnostic other ∉ checkJob options ids id j := by
  intro h
  have herror : (cycleDiagnostic other).isError = true := rfl
  unfold checkJob at h
  simp only [List.mem_append] at h
  -- the other checks tell of errors too, but none of their messages begins with this character
  obtain ((hrunner | hneeds) | hstrategy) | hsteps := h
  · have := (chars_of_error_checkRunner hrunner herror).1
    simp at this
  · obtain ⟨need, _, _, heq⟩ := mem_checkNeeds.mp hneeds
    have := congrArg Diagnostic.initial heq
    simp at this
  · have := initial_of_error_checkStrategy hstrategy herror
    simp at this
  · have := initial_of_error_checkSteps hsteps herror
    simp at this

/-- A job is told to need one that does not exist by the check of its needs alone. -/
theorem missingJobError_mem_checkJob {options : LintOptions} {ids : List String}
    {id other need : String} {j : Job} :
    missingJobError other need ∈ checkJob options ids id j ↔
      other = id ∧ need ∈ j.needsList ∧ need ∉ ids := by
  have herror : (missingJobError other need).isError = true := rfl
  unfold checkJob
  simp only [List.mem_append]
  constructor
  · rintro (((hrunner | hneeds) | hstrategy) | hsteps)
    -- a missing runner is told with the same beginning, so here the end decides
    · have := (chars_of_error_checkRunner hrunner herror).2
      simp at this
    · obtain ⟨need', hneed, hmissing, heq⟩ := mem_checkNeeds.mp hneeds
      obtain ⟨rfl, rfl⟩ := missingJobError_injective heq
      exact ⟨rfl, hneed, hmissing⟩
    · have := initial_of_error_checkStrategy hstrategy herror
      simp at this
    · have := initial_of_error_checkSteps hsteps herror
      simp at this
  · rintro ⟨rfl, hneed, hmissing⟩
    exact .inl (.inl (.inr (mem_checkNeeds.mpr ⟨need, hneed, hmissing, rfl⟩)))

/-- What is told of a job stands at that job. -/
theorem within_of_mem_checkJob {options : LintOptions} {ids : List String} {id : String} {j : Job}
    {d : Diagnostic} (h : d ∈ checkJob options ids id j) : d.Within (jobPath id) := by
  unfold checkJob at h
  simp only [List.mem_append] at h
  obtain ((hrunner | hneeds) | hstrategy) | hsteps := h
  · unfold checkRunner at hrunner
    split at hrunner
    · cases List.mem_singleton.mp hrunner
      exact ⟨".runs-on", rfl⟩
    · obtain ⟨label, _, rfl⟩ := List.mem_map.mp hrunner
      exact ⟨".runs-on", rfl⟩
  · obtain ⟨need, _, _, rfl⟩ := mem_checkNeeds.mp hneeds
    exact ⟨".needs", rfl⟩
  · unfold checkStrategy at hstrategy
    cases hsome : j.strategy with
    | none => simp [hsome] at hstrategy
    | some s =>
      rw [hsome] at hstrategy
      rcases List.mem_append.mp hstrategy with hmatrix | hparallel
      · cases hvariables : s.matrix with
        | none => simp [hvariables] at hmatrix
        | some matrix =>
          simp only [hvariables, Option.map_some, Option.getD_some, checkMatrix] at hmatrix
          rcases List.mem_append.mp hmatrix with hempty | hvalues
          · obtain ⟨_, rfl⟩ := mem_report.mp hempty
            exact ⟨".strategy.matrix", rfl⟩
          · obtain ⟨e, _, rfl⟩ := List.mem_map.mp hvalues
            exact ⟨".strategy.matrix" ++ ("." ++ e.1), by
              simp only [Diagnostic.error, String.append_assoc]⟩
      · obtain ⟨_, rfl⟩ := mem_report.mp hparallel
        exact ⟨".strategy.max-parallel", rfl⟩
  · unfold checkSteps at hsteps
    split at hsteps
    · cases List.mem_singleton.mp hsteps
      exact ⟨".steps", rfl⟩
    · obtain ⟨ds, hds, hd⟩ := List.mem_flatten.mp hsteps
      obtain ⟨index, hindex, rfl⟩ := List.mem_mapIdx.mp hds
      unfold checkStep at hd
      simp only [List.mem_append, mem_report] at hd
      -- all three stand at the step, the last of them at its action
      obtain (⟨_, rfl⟩ | ⟨_, rfl⟩) | ⟨_, rfl⟩ := hd
      · exact ⟨".steps[" ++ (toString index ++ "]"), by
          simp only [Diagnostic.error, String.append_assoc]⟩
      · exact ⟨".steps[" ++ (toString index ++ "]"), by
          simp only [Diagnostic.error, String.append_assoc]⟩
      · exact ⟨".steps[" ++ (toString index ++ ("]" ++ ".uses")), by
          simp only [Diagnostic.warning, String.append_assoc]⟩

/-! ## Errors of a workflow -/

theorem within_self (d : Diagnostic) : d.Within d.path := ⟨"", by simp⟩

/-- What is told about a trigger stands at that trigger. It is an error, but for what may be said of
an activity type. -/
theorem mem_checkTrigger_cases {index : Nat} {t : Trigger} {d : Diagnostic}
    (h : d ∈ checkTrigger index t) :
    (∃ rest message, d = .error (triggerPath index t.event ++ rest) message) ∨
      ∃ message, d = .warning (triggerPath index t.event ++ ".types") message ∧
        d.initial = some 'I' := by
  unfold checkTrigger at h
  simp only [List.mem_append] at h
  -- check by check, of which only that of the types has warnings
  obtain (((hevent | hfilters) | htypes) | hworkflows) | hcron := h
  · obtain ⟨_, rfl⟩ := mem_report.mp hevent
    exact .inl ⟨"", _, by rw [String.append_empty]⟩
  · unfold checkTextFilters at hfilters
    split at hfilters
    · obtain ⟨f, _, hf⟩ := List.mem_flatMap.mp hfilters
      unfold checkTextFilter at hf
      split at hf
      · obtain ⟨_, rfl⟩ := mem_report.mp hf
        exact .inl ⟨"." ++ f.1, _, by rw [String.append_assoc]⟩
      · cases hf
    · cases hfilters
  · unfold checkTypes at htypes
    split at htypes
    · obtain ⟨_, rfl⟩ := mem_report.mp htypes
      exact .inl ⟨".types", _, rfl⟩
    · obtain ⟨activity, _, hactivity⟩ := List.mem_flatMap.mp htypes
      obtain ⟨_, rfl⟩ := mem_report.mp hactivity
      split
      · exact .inl ⟨".types", _, rfl⟩
      · exact .inr ⟨_, rfl, by simp⟩
    · cases htypes
  · obtain ⟨_, rfl⟩ := mem_report.mp hworkflows
    exact .inl ⟨"", _, by rw [String.append_empty]⟩
  · unfold checkCron at hcron
    split at hcron
    · split at hcron
      · cases List.mem_singleton.mp hcron
        exact .inl ⟨"", _, by rw [String.append_empty]⟩
      · obtain ⟨_, rfl⟩ := mem_report.mp hcron
        exact .inl ⟨".cron", _, rfl⟩
    · cases hcron

/-- A diagnostic about a trigger stays within the place of its event. -/
theorem within_of_mem_checkTrigger {index : Nat} {t : Trigger} {d : Diagnostic}
    (h : d ∈ checkTrigger index t) : d.Within (triggerPath index t.event) := by
  rcases mem_checkTrigger_cases h with ⟨rest, message, rfl⟩ | ⟨message, rfl, _⟩
  · exact ⟨rest, rfl⟩
  · exact ⟨".types", rfl⟩

/-- What is told about triggers stands under the key of the triggers. -/
theorem within_of_mem_checkTriggers {triggers : List Trigger} {d : Diagnostic}
    (h : d ∈ checkTriggers triggers) : d.Within "on" := by
  unfold checkTriggers at h
  split at h
  · cases List.mem_singleton.mp h
    exact within_self _
  · obtain ⟨ds, hds, hd⟩ := List.mem_flatten.mp h
    obtain ⟨index, hindex, rfl⟩ := List.mem_mapIdx.mp hds
    obtain ⟨rest, hrest⟩ := within_of_mem_checkTrigger hd
    refine ⟨"[" ++ toString index ++ "]." ++ triggers[index].event ++ rest, ?_⟩
    rw [hrest, triggerPath]
    simp [← String.toList_inj]

/-- What stands at a job is not told about the triggers. -/
theorem not_mem_checkTriggers {triggers : List Trigger} {d : Diagnostic} {id : String}
    (hplace : d.Within (jobPath id)) : d ∉ checkTriggers triggers := by
  intro h
  obtain ⟨rest, hrest⟩ := within_of_mem_checkTriggers h
  obtain ⟨rest', hrest'⟩ := hplace
  have hboth := congrArg (fun path => path.toList.head?) (hrest.symm.trans hrest')
  simp [jobPath] at hboth

theorem within_cycleDiagnostic (id : String) : (cycleDiagnostic id).Within (jobPath id) :=
  ⟨".needs", rfl⟩

theorem within_missingJobError (id need : String) : (missingJobError id need).Within (jobPath id) :=
  ⟨".needs", rfl⟩

/-- Where there are jobs, what their checks tell is told of the needs of all or of one of them. -/
theorem mem_checkJobs {options : LintOptions} {jobs : KeyedList Job} {d : Diagnostic}
    (hjobs : jobs.isEmpty = false) :
    d ∈ checkJobs options jobs ↔
      d ∈ checkCycles jobs ∨ ∃ e ∈ jobs.entries, d ∈ checkJob options jobs.keys e.1 e.2 := by
  unfold checkJobs
  rw [if_neg (by simp [hjobs]), List.mem_append, List.mem_flatMap]

/-- Where there are no jobs, nothing else is told of them. -/
theorem mem_checkJobs_of_isEmpty {options : LintOptions} {jobs : KeyedList Job} {d : Diagnostic}
    (hjobs : jobs.isEmpty = true) :
    d ∈ checkJobs options jobs ↔ d = .error "jobs" "Workflow must have at least one job" := by
  unfold checkJobs
  rw [if_pos hjobs, List.mem_singleton]

/-- What is told about jobs stands under the key of the jobs. -/
theorem within_of_mem_checkJobs {options : LintOptions} {jobs : KeyedList Job} {d : Diagnostic}
    (h : d ∈ checkJobs options jobs) : d.Within "jobs" := by
  -- the place of a job is one within the jobs
  have hplace : ∀ id, d.Within (jobPath id) → d.Within "jobs" := by
    rintro id ⟨rest, hrest⟩
    refine ⟨"." ++ id ++ rest, ?_⟩
    rw [hrest, jobPath]
    simp [← String.toList_inj]
  unfold checkJobs at h
  split at h
  · cases List.mem_singleton.mp h
    exact within_self _
  · rcases List.mem_append.mp h with hcycle | hjob
    · obtain ⟨id, _, rfl⟩ := List.mem_map.mp hcycle
      exact hplace id (within_cycleDiagnostic id)
    · obtain ⟨e, _, he⟩ := List.mem_flatMap.mp hjob
      exact hplace e.1 (within_of_mem_checkJob he)

theorem keys_of_isEmpty {jobs : KeyedList Job} (hjobs : jobs.isEmpty = true) : jobs.keys = [] := by
  unfold KeyedList.keys
  rw [List.isEmpty_iff.mp hjobs, List.map_nil]

end Lint

open Lint

/-- Circular dependencies are told of the jobs from which the search finds one. -/
theorem Workflow.cycleDiagnostic_mem_lintWith {options : LintOptions} {w : Workflow} {id : String} :
    cycleDiagnostic id ∈ w.lintWith options ↔ id ∈ cycleJobs w.jobs := by
  unfold lintWith
  -- triggers have another place, and a workflow without jobs has no needs
  rw [List.mem_append, or_iff_right (not_mem_checkTriggers (within_cycleDiagnostic id))]
  cases hjobs : w.jobs.isEmpty with
  | true =>
    rw [mem_checkJobs_of_isEmpty hjobs, cycleJobs, keys_of_isEmpty hjobs]
    refine ⟨fun heq => ?_, fun hmem => absurd hmem List.not_mem_nil⟩
    have := congrArg Diagnostic.initial heq
    simp at this
  | false =>
    rw [mem_checkJobs hjobs]
    constructor
    · rintro (hcycle | ⟨e, _, hjob⟩)
      · obtain ⟨other, hother, heq⟩ := List.mem_map.mp hcycle
        exact cycleDiagnostic_injective heq ▸ hother
      · exact absurd hjob cycleDiagnostic_not_mem_checkJob
    · exact fun hmem => .inl (List.mem_map_of_mem hmem)

/-- Missing jobs are told of the needs that name no job, job by job. -/
theorem Workflow.missingJobError_mem_lintWith {options : LintOptions} {w : Workflow}
    {id need : String} :
    missingJobError id need ∈ w.lintWith options ↔
      Requires w.jobs id need ∧ need ∉ w.jobs.keys := by
  unfold lintWith
  rw [List.mem_append, or_iff_right (not_mem_checkTriggers (within_missingJobError id need)),
    requires_iff]
  cases hjobs : w.jobs.isEmpty with
  | true =>
    rw [mem_checkJobs_of_isEmpty hjobs]
    constructor
    · -- the complaint about no jobs begins with another letter
      intro heq
      have := congrArg Diagnostic.initial heq
      simp at this
    · rintro ⟨⟨j, hj, _⟩, _⟩
      rw [KeyedList.get?_eq_none_iff.mpr (by simp [keys_of_isEmpty hjobs])] at hj
      cases hj
  | false =>
    rw [mem_checkJobs hjobs]
    constructor
    · rintro (hcycle | ⟨e, he, hjob⟩)
      · -- and so does every one about a cycle
        obtain ⟨other, _, heq⟩ := List.mem_map.mp hcycle
        have := congrArg Diagnostic.initial heq
        simp at this
      · obtain ⟨rfl, hneed, hmissing⟩ := missingJobError_mem_checkJob.mp hjob
        exact ⟨⟨e.2, KeyedList.get?_eq_some_iff.mpr he, hneed⟩, hmissing⟩
    · rintro ⟨⟨j, hj, hneed⟩, hmissing⟩
      exact .inr ⟨(id, j), KeyedList.get?_eq_some_iff.mp hj,
        missingJobError_mem_checkJob.mpr ⟨rfl, hneed, hmissing⟩⟩

end CiWorkflow
