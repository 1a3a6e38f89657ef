import CiWorkflow.Command
import CiWorkflow.Proofs.Diagnostics
/-!
# Runner Labels

The checks can be told of runner labels that are known beside the common ones. All that this does is
to silence the warnings about these labels. It neither hides nor brings up anything else, so that it
makes no difference to whether a workflow passes.

## Layers

- **Warnings about labels**, and how they are told from all other diagnostics.
- **Other checks** have no such warnings.
- **Workflows**: diagnostics with more labels and with fewer.
- **Commands**: what makes a check fail.
-/

namespace CiWorkflow

/-! ## Warnings about labels -/

namespace Diagnostic

/-- The diagnostic is the warning about a label at some job. -/
def ReportsLabel (label : String) (d : Diagnostic) : Prop := ∃ id, d = Lint.runnerWarning id label

/-- What stands in the place between `jobs.` and `.runs-on`. -/
def runnerJob (d : Diagnostic) : String :=
  String.ofList ((d.path.toList.drop 5).take (d.path.toList.length - 13))

/-- A warning about a label tells its job, which makes the relation above decidable. -/
theorem runnerJob_runnerWarning (id label : String) :
    (Lint.runnerWarning id label).runnerJob = id := by
  apply String.toList_injective
  have hpath : (Lint.runnerWarning id label).path.toList =
      "jobs.".toList ++ (id.toList ++ ".runs-on".toList) := by
    simp [Lint.runnerWarning, warning, Lint.jobPath]
  rw [runnerJob, hpath]
  simp

instance (label : String) (d : Diagnostic) : Decidable (d.ReportsLabel label) :=
  decidable_of_iff (d = Lint.runnerWarning d.runnerJob label)
    ⟨fun h => ⟨_, h⟩, by rintro ⟨id, rfl⟩; rw [runnerJob_runnerWarning]⟩

theorem ReportsLabel.isError {label : String} {d : Diagnostic} (h : d.ReportsLabel label) :
    d.isError = false := by
  obtain ⟨id, rfl⟩ := h
  rfl

/-- No other warning begins with this letter. -/
theorem ReportsLabel.initial {label : String} {d : Diagnostic} (h : d.ReportsLabel label) :
    d.initial = some 'U' := by
  obtain ⟨id, rfl⟩ := h
  simp [Lint.runnerWarning]

end Diagnostic

namespace Lint

/-- A warning is about the label that it was made for. -/
theorem reportsLabel_runnerWarning_iff {id label other : String} :
    (runnerWarning id label).ReportsLabel other ↔ label = other := by
  constructor
  · rintro ⟨id', h⟩
    have hmessage := congrArg Diagnostic.message h
    simpa [runnerWarning, Diagnostic.warning] using hmessage
  · rintro rfl
    exact ⟨id, rfl⟩

/-- Diagnostics without the warnings about some labels. -/
def silence (labels : List String) (ds : List Diagnostic) : List Diagnostic :=
  ds.filter fun d => ¬∃ label ∈ labels, d.ReportsLabel label

variable {labels more : List String}

theorem silence_append (labels : List String) (ds es : List Diagnostic) :
    silence labels (ds ++ es) = silence labels ds ++ silence labels es :=
  List.filter_append ..

theorem silence_flatMap {α : Type} (labels : List String) (as : List α)
    (f : α → List Diagnostic) :
    silence labels (as.flatMap f) = as.flatMap fun a => silence labels (f a) :=
  List.filter_flatMap ..

/-- Errors are not silenced, nor are warnings that begin otherwise. -/
theorem silence_eq_self {ds : List Diagnostic}
    (h : ∀ d ∈ ds, d.isError = false → d.initial ≠ some 'U') : silence labels ds = ds := by
  rw [silence, List.filter_eq_self]
  intro d hd
  rw [decide_eq_true_eq]
  rintro ⟨label, _, hreports⟩
  exact h d hd hreports.isError hreports.initial

theorem isTolerated_append (label : String) :
    isTolerated ⟨labels ++ more⟩ label = (isTolerated ⟨labels⟩ label || more.contains label) := by
  unfold isTolerated
  dsimp only
  rw [List.contains_append]
  ac_rfl

/-- More labels silence just the warnings about them. -/
theorem checkRunner_append (labels more : List String) (id : String) (runsOn : RunsOn) :
    checkRunner ⟨labels ++ more⟩ id runsOn = silence more (checkRunner ⟨labels⟩ id runsOn) := by
  unfold checkRunner
  split
  · exact (silence_eq_self (by simp)).symm
  · -- label by label: it is silenced just where it is one of the further ones
    have hkept : ∀ label, decide (¬∃ other ∈ more, (runnerWarning id label).ReportsLabel other) =
        !more.contains label := by
      intro label
      simp [reportsLabel_runnerWarning_iff]
    rw [silence, List.filter_map, List.filter_filter]
    congr 1
    apply List.filter_congr
    intro label _
    rw [Function.comp_apply, hkept, isTolerated_append, Bool.not_or, Bool.and_comm]

/-! ## Other checks -/

/-- What is no error about triggers is about an activity type. -/
theorem initial_of_warning_checkTriggers {triggers : List Trigger} {d : Diagnostic}
    (h : d ∈ checkTriggers triggers) (hwarning : d.isError = false) : d.initial = some 'I' := by
  unfold checkTriggers at h
  split at h
  · cases List.mem_singleton.mp h
    cases hwarning
  · obtain ⟨ds, hds, hd⟩ := List.mem_flatten.mp h
    obtain ⟨index, hindex, rfl⟩ := List.mem_mapIdx.mp hds
    rcases mem_checkTrigger_cases hd with ⟨_, _, rfl⟩ | ⟨_, _, hinitial⟩
    · cases hwarning
    · exact hinitial

/-- What is no error about a strategy is about an empty matrix. -/
theorem initial_of_warning_checkStrategy {id : String} {strategy : Option Strategy} {d : Diagnostic}
    (h : d ∈ checkStrategy id strategy) (hwarning : d.isError = false) : d.initial = some 'J' := by
  unfold checkStrategy at h
  cases strategy with
  | none => cases h
  | some s =>
    rcases List.mem_append.mp h with hmatrix | hparallel
    · cases hvariables : s.matrix with
      | none => simp [hvariables] at hmatrix
      | some matrix =>
        simp only [hvariables, Option.map_some, Option.getD_some, checkMatrix] at hmatrix
        rcases List.mem_append.mp hmatrix with hempty | hvalues
        · -- an empty matrix is the one warning here
          obtain ⟨_, rfl⟩ := mem_report.mp hempty
          simp
        · obtain ⟨e, _, rfl⟩ := List.mem_map.mp hvalues
          cases hwarning
    · obtain ⟨_, rfl⟩ := mem_report.mp hparallel
      cases hwarning

/-- What is no error about steps is about a job without steps or about an action. -/
theorem initial_of_warning_checkSteps {id : String} {steps : List Step} {d : Diagnostic}
    (h : d ∈ checkSteps id steps) (hwarning : d.isError = false) :
    d.initial = some 'J' ∨ d.initial = some 'I' := by
  -- of what is said about one step, only the form of `uses` is a warning
  unfold checkSteps at h
  split at h
  · cases List.mem_singleton.mp h
    left
    simp
  · obtain ⟨ds, hds, hd⟩ := List.mem_flatten.mp h
    obtain ⟨index, hindex, rfl⟩ := List.mem_mapIdx.mp hds
    unfold checkStep at hd
    simp only [List.mem_append, mem_report] at hd
    obtain (⟨_, rfl⟩ | ⟨_, rfl⟩) | ⟨_, rfl⟩ := hd
    · cases hwarning
    · cases hwarning
    · right
      simp

/-- Of the checks of a job only that of the runner knows labels. -/
theorem checkJob_append (labels more ids : List String) (id : String) (j : Job) :
    checkJob ⟨labels ++ more⟩ ids id j = silence more (checkJob ⟨labels⟩ ids id j) := by
  -- what the other checks tell is an error, or begins with another letter
  have hneeds : silence more (checkNeeds ids id j.needsList) = checkNeeds ids id j.needsList := by
    refine silence_eq_self fun d hd hwarning => ?_
    obtain ⟨need, _, _, rfl⟩ := mem_checkNeeds.mp hd
    cases hwarning
  have hstrategy : silence more (checkStrategy id j.strategy) = checkStrategy id j.strategy := by
    refine silence_eq_self fun d hd hwarning => ?_
    rw [initial_of_warning_checkStrategy hd hwarning]
    simp
  have hsteps : silence more (checkSteps id j.steps) = checkSteps id j.steps := by
    refine silence_eq_self fun d hd hwarning => ?_
    rcases initial_of_warning_checkSteps hd hwarning with hinitial | hinitial
    · rw [hinitial]
      simp
    · rw [hinitial]
      simp
  unfold checkJob
  rw [silence_append, silence_append, silence_append, ← checkRunner_append, hneeds, hstrategy,
    hsteps]

/-- Whatever is told of the jobs, only labels are silenced by labels. -/
theorem checkJobs_append (labels more : List String) (jobs : KeyedList Job) :
    checkJobs ⟨labels ++ more⟩ jobs = silence more (checkJobs ⟨labels⟩ jobs) := by
  unfold checkJobs
  split
  · exact (silence_eq_self (by simp)).symm
  · have hcycles : silence more (checkCycles jobs) = checkCycles jobs := by
      refine silence_eq_self fun d hd hwarning => ?_
      obtain ⟨id, _, rfl⟩ := List.mem_map.mp hd
      cases hwarning
    rw [silence_append, silence_flatMap, hcycles]
    simp only [checkJob_append]

end Lint

/-! ## Workflows -/

namespace Workflow

open Lint

/-- The step from the jobs to the workflow: triggers have no labels. -/
theorem lintWith_append (w : Workflow) (labels more : List String) :
    w.lintWith ⟨labels ++ more⟩ = silence more (w.lintWith ⟨labels⟩) := by
  have htriggers : silence more (checkTriggers w.triggers) = checkTriggers w.triggers := by
    refine silence_eq_self fun d hd hwarning => ?_
    rw [initial_of_warning_checkTriggers hd hwarning]
    simp
  unfold lintWith
  rw [silence_append, htriggers, checkJobs_append]

/-- The errors of a workflow do not depend on what labels are known. -/
theorem filter_isError_lintWith (w : Workflow) (options : LintOptions) :
    (w.lintWith options).filter Diagnostic.isError = w.lint.filter Diagnostic.isError := by
  -- without any labels as the beginning, all labels are more labels
  have hlabels := w.lintWith_append [] options.extraRunnerLabels
  rw [List.nil_append] at hlabels
  rw [show w.lintWith options = silence options.extraRunnerLabels w.lint from hlabels, silence,
    List.filter_filter]
  apply List.filter_congr
  intro d _
  cases herror : d.isError with
  | false => rfl
  | true =>
    rw [Bool.true_and, decide_eq_true_eq]
    rintro ⟨label, _, hreports⟩
    exact absurd (herror.symm.trans hreports.isError) (by simp)

theorem errorCount_lintWith (w : Workflow) (options : LintOptions) :
    errorCount (w.lintWith options) = errorCount w.lint := by
  rw [errorCount, errorCount, List.countP_eq_length_filter, List.countP_eq_length_filter,
    filter_isError_lintWith]

end Workflow

/-! ## Commands -/

theorem errorCount_eq_zero_iff {ds : List Diagnostic} :
    errorCount ds = 0 ↔ ∀ d ∈ ds, d.isError = false := by
  rw [errorCount, List.countP_eq_zero]
  simp only [Bool.not_eq_true]

namespace Command

/-- A file passes if it can be read, what is in it is read without problems, and no error is found
in it. -/
def Passes (files : Files) (file : String) : Prop :=
  ∃ text, files file = .ok text ∧ (Workflow.ofText text).problems = [] ∧
    ∀ d ∈ (Workflow.ofText text).workflow.lint, d.isError = false

/-- A command needs a file that can be read without problems before it does anything. -/
theorem withWorkflow_succeeds_iff {files : Files} {file : String} {act : Workflow → Outcome} :
    (withWorkflow files file act).failed = false ↔
      ∃ text, files file = .ok text ∧ (Workflow.ofText text).problems = [] ∧
        (act (Workflow.ofText text).workflow).failed = false := by
  unfold withWorkflow
  cases hfile : files file with
  | error reason => simp [Outcome.failure]
  | ok text =>
    cases hproblems : (Workflow.ofText text).problems with
    | nil => simp [Reading.isOk, hproblems]
    | cons p rest => simp [Reading.isOk, hproblems, Outcome.failure]

/-- What is printed makes no difference, and the labels that are known make none. -/
theorem judged_succeeds_iff {w : Workflow} {options : LintOptions} {message output : String} :
    (if 0 < errorCount (w.lintWith options) then Outcome.failure message output
      else .printed output).failed = false ↔ ∀ d ∈ w.lint, d.isError = false := by
  rw [← errorCount_eq_zero_iff, w.errorCount_lintWith]
  by_cases hcount : errorCount w.lint = 0
  · rw [if_neg (by omega)]
    exact iff_of_true rfl hcount
  · rw [if_pos (by omega)]
    exact iff_of_false (by simp [Outcome.failure]) hcount

/-- Checking passes by the rules of `Passes`. -/
theorem runCheck_succeeds_iff {settings : Settings} {files : Files} {file : String} :
    (runCheck settings files file).failed = false ↔ Passes files file := by
  unfold runCheck Passes
  rw [withWorkflow_succeeds_iff]
  simp only [judged_succeeds_iff]

theorem runLint_succeeds_iff {settings : Settings} {files : Files} {file : String} {json : Bool} :
    (runLint settings files file json).failed = false ↔ Passes files file := by
  unfold runLint Passes
  rw [withWorkflow_succeeds_iff]
  simp only [judged_succeeds_iff]

end Command

/-- **More runner labels silence warnings and nothing else.** The diagnostics with more labels are
those with fewer of them, in their order, without the warnings about the labels that have come in.
The errors are the same whatever labels are known. So whether a workflow is checked or linted, with
JSON or without, makes no difference, and neither do the settings: it passes just if its file can be
read, is read without problems, and has no errors. -/
theorem lintWith_silences (w : Workflow) (labels more : List String) :
    w.lintWith ⟨labels ++ more⟩ =
      ((w.lintWith ⟨labels⟩).filter fun d => ¬∃ label ∈ more, d.ReportsLabel label) ∧
    (w.lintWith ⟨labels ++ more⟩).filter Diagnostic.isError =
      (w.lintWith ⟨labels⟩).filter Diagnostic.isError ∧
    ∀ (settings : Settings) (files : Files) (file : String),
      (((Command.check file).run settings files).failed = false ↔ Command.Passes files file) ∧
      ∀ json, ((Command.lint file json).run settings files).failed = false ↔
        Command.Passes files file := by
  refine ⟨w.lintWith_append labels more, ?_, fun settings files file => ⟨?_, fun json => ?_⟩⟩
  · rw [w.filter_isError_lintWith, w.filter_isError_lintWith]
  · exact Command.runCheck_succeeds_iff
  · exact Command.runLint_succeeds_iff

end CiWorkflow
