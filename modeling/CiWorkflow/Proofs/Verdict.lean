import CiWorkflow.Proofs.CycleSearch
/-!
# What a Workflow without Errors Is

The checks of a workflow tell of everything that is wrong with it, one diagnostic at a time. Here is
what is right with a workflow of which they tell no error, stated without any check: conditions on
its triggers, on the needs among its jobs, and on every job by itself.

## Layers

- **Valid workflows**: triggers, jobs and the workflow as a whole.
- **Lists without errors**: a list of diagnostics has none if its parts have none.
- **Triggers**, **jobs**, **workflows**: each check tells of no error exactly where its condition
  holds.
-/

namespace CiWorkflow

open Yaml (Value)

/-! ## Valid workflows -/

/-- A value is a text, be it behind tags. -/
def IsText (v : Value) : Prop := ∃ s, v.untagged = .string s

/-- A filter is a text, or a list of nothing but texts. -/
def TextsOnly (v : Value) : Prop :=
  IsText v ∨ ∃ items, v = .sequence items ∧ ∀ item ∈ items, IsText item

/-- A text is a filter, or stands in its list. -/
def TextIn (s : String) (v : Value) : Prop :=
  v.untagged = .string s ∨ ∃ items, v = .sequence items ∧ ∃ item ∈ items, item.untagged = .string s

/-- The activity types of runs of workflows are their three states, as far as they are texts. -/
def StatesOnly (v : Value) : Prop :=
  ∀ s, TextIn s v → s ∈ ["completed", "requested", "in_progress"]

/-- A value names workflows, by one name or by a list of some names; neither stands behind a tag. -/
def WorkflowNames (v : Value) : Prop :=
  (∃ name, name ≠ "" ∧ v = .string name) ∨
    ∃ names, names ≠ [] ∧ v = .sequence names ∧ ∀ name ∈ names, IsText name

/-- A text is five words of digits, `*`, `,`, `/` and `-`. -/
def CronExpression (s : String) : Prop :=
  (Text.words s).length = 5 ∧
    ∀ field ∈ Text.words s, ∀ c ∈ field.toList, c.isDigit ∨ c ∈ ['*', ',', '/', '-']

/-- A value is a list of some values, be it behind tags. -/
def NonEmptyList (v : Value) : Prop := ∃ items, v.untagged = .sequence items ∧ items ≠ []

/-- A condition on a filter, if it is there and not null. -/
def Trigger.Filtered (t : Trigger) (key : String) (condition : Value → Prop) : Prop :=
  ∀ v, t.config.get? key = some v → v.untagged ≠ .null → condition v

/-- The event of a trigger is known, and its configuration is one for this event. -/
structure Trigger.Valid (t : Trigger) : Prop where
  event : t.event ∈ Event.known
  /-- The filters of a push or a pull request are texts. -/
  filters : t.event = "push" ∨ t.event = "pull_request" →
    ∀ key ∈ ["branches", "tags", "paths", "paths-ignore"], t.Filtered key TextsOnly
  /-- The activity types of a dispatch are texts. -/
  dispatch : t.event = "repository_dispatch" → t.Filtered "types" TextsOnly
  /-- The activity types of runs of workflows are states. -/
  states : t.event = "workflow_run" → t.Filtered "types" StatesOnly
  /-- Runs of workflows are those of named ones. -/
  workflows : t.event = "workflow_run" →
    ∃ v, t.config.get? "workflows" = some v ∧ WorkflowNames v
  /-- A schedule has a cron expression. -/
  schedule : t.event = "schedule" →
    ∃ v s, t.config.get? "cron" = some v ∧ v.untagged = .string s ∧ CronExpression s

/-- A text is there and not empty. -/
def Given (text : Option String) : Prop := ∃ s, text = some s ∧ s ≠ ""

/-- A step runs a command or uses an action, and not both. -/
def Step.DoesOneThing (s : Step) : Prop :=
  Given s.run ∧ ¬Given s.uses ∨ ¬Given s.run ∧ Given s.uses

/-- A job has a runner, multiplies to something, and every step of it does one thing. -/
structure Job.Valid (j : Job) : Prop where
  /-- The runner is named. -/
  runner : j.runsOn ≠ .label "" ∧ j.runsOn ≠ .labels []
  /-- Every matrix variable is a list of some values. -/
  matrix : ∀ strategy matrix, j.strategy = some strategy → strategy.matrix = some matrix →
    ∀ e ∈ matrix.entries, NonEmptyList e.2
  /-- At least one job may run at once. -/
  maxParallel : ∀ strategy n, j.strategy = some strategy → strategy.maxParallel = some n → 1 ≤ n
  steps : ∀ step ∈ j.steps, step.DoesOneThing

/-- A workflow can run as it is written. -/
structure Workflow.Valid (w : Workflow) : Prop where
  /-- Something starts it. -/
  triggered : w.triggers ≠ []
  triggers : ∀ t ∈ w.triggers, t.Valid
  /-- It has something to do. -/
  inhabited : w.jobs.keys ≠ []
  /-- Its needs name jobs, and have no cycle. -/
  needs : w.SoundNeeds
  jobs : ∀ e ∈ w.jobs.entries, e.2.Valid

namespace Lint

/-! ## Lists without errors -/

/-- No diagnostic of a list is an error. -/
def NoErrors (ds : List Diagnostic) : Prop := ∀ d ∈ ds, d.isError = false

theorem noErrors_nil : NoErrors [] := fun _ hd => absurd hd List.not_mem_nil

theorem not_noErrors_error {path message : String} : ¬NoErrors [.error path message] :=
  fun h => nomatch h _ (List.mem_singleton.mpr rfl)

/-- Checks that stand one behind the other are passed one by one. -/
theorem noErrors_append {ds ds' : List Diagnostic} :
    NoErrors (ds ++ ds') ↔ NoErrors ds ∧ NoErrors ds' :=
  List.forall_mem_append

theorem noErrors_report_error {condition : Bool} {path message : String} :
    NoErrors (report condition (.error path message)) ↔ condition = false := by
  unfold NoErrors
  cases condition <;> simp

/-- Warnings never count. -/
theorem noErrors_report_warning {condition : Bool} {path message : String} :
    NoErrors (report condition (.warning path message)) := by
  rintro _ hd
  obtain ⟨_, rfl⟩ := mem_report.mp hd
  rfl

theorem noErrors_flatMap {α : Type} {items : List α} {check : α → List Diagnostic} :
    NoErrors (items.flatMap check) ↔ ∀ item ∈ items, NoErrors (check item) := by
  unfold NoErrors
  simp only [List.mem_flatMap]
  constructor
  · exact fun h item hitem d hd => h d ⟨item, hitem, hd⟩
  · rintro h d ⟨item, hitem, hd⟩
    exact h item hitem d hd

/-- Where the position of an item does not matter, the items of a list count one by one. -/
theorem noErrors_mapIdx {α : Type} {items : List α} {check : Nat → α → List Diagnostic}
    {valid : α → Prop} (h : ∀ index item, NoErrors (check index item) ↔ valid item) :
    NoErrors (items.mapIdx check).flatten ↔ ∀ item ∈ items, valid item := by
  constructor
  · intro hall item hitem
    obtain ⟨index, hindex, rfl⟩ := List.mem_iff_getElem.mp hitem
    refine (h index _).mp fun d hd => hall d (List.mem_flatten.mpr ⟨_, ?_, hd⟩)
    exact List.mem_mapIdx.mpr ⟨index, hindex, rfl⟩
  · intro hvalid d hd
    obtain ⟨ds, hds, hd⟩ := List.mem_flatten.mp hd
    obtain ⟨index, hindex, rfl⟩ := List.mem_mapIdx.mp hds
    exact (h index _).mpr (hvalid _ (List.getElem_mem hindex)) d hd

/-- A list made of errors has none only if it is empty. -/
theorem noErrors_map {α : Type} {items : List α} {tell : α → Diagnostic}
    (h : ∀ item, (tell item).isError = true) : NoErrors (items.map tell) ↔ items = [] := by
  constructor
  · intro hnone
    apply List.eq_nil_iff_forall_not_mem.mpr
    intro item hitem
    have := hnone _ (List.mem_map_of_mem hitem)
    rw [h item] at this
    cases this
  · rintro rfl
    exact noErrors_nil

/-! ## Triggers -/

/-- A filter holds texts only, in a list or as the one item that it is. -/
theorem textsOnly_iff {v : Value} : (filterItems v).all Value.isString = true ↔ TextsOnly v := by
  rw [List.all_eq_true]
  unfold TextsOnly
  constructor
  · intro h
    cases v with
    | sequence items =>
      exact .inr ⟨items, rfl, fun item hitem => Value.isString_iff.mp (h item hitem)⟩
    | _ => exact .inl (Value.isString_iff.mp (h _ (List.mem_singleton.mpr rfl)))
  · rintro (htext | ⟨items, rfl, hitems⟩)
    · cases v with
      | sequence items => exact absurd htext fun ⟨_, hs⟩ => nomatch hs
      | _ =>
        intro item hitem
        cases List.mem_singleton.mp hitem
        exact Value.isString_iff.mpr htext
    · exact fun item hitem => Value.isString_iff.mpr (hitems item hitem)

theorem textIn_iff {v : Value} {s : String} :
    s ∈ (filterItems v).filterMap Value.asString? ↔ TextIn s v := by
  rw [List.mem_filterMap]
  unfold TextIn
  constructor
  · rintro ⟨item, hitem, hs⟩
    rw [Value.asString?_eq_some_iff] at hs
    cases v with
    | sequence items => exact .inr ⟨items, rfl, item, hitem, hs⟩
    | _ =>
      cases List.mem_singleton.mp hitem
      exact .inl hs
  · rintro (hs | ⟨items, rfl, item, hitem, hs⟩)
    · cases v with
      | sequence items => cases hs
      | _ => exact ⟨_, List.mem_singleton.mpr rfl, Value.asString?_eq_some_iff.mpr hs⟩
    · exact ⟨item, hitem, Value.asString?_eq_some_iff.mpr hs⟩

theorem filter?_eq_some_iff {config : TriggerConfig} {key : String} {v : Value} :
    filter? config key = some v ↔ config.get? key = some v ∧ v.untagged ≠ .null := by
  unfold filter?
  rw [Option.filter_eq_some_iff, Bool.not_eq_true', ← Bool.not_eq_true, Value.isNull_iff]

/-- A condition on a filter is met where no filter counts. -/
theorem filtered_iff {t : Trigger} {key : String} {condition : Value → Prop} :
    t.Filtered key condition ↔ ∀ v, filter? t.config key = some v → condition v := by
  unfold Trigger.Filtered
  simp only [filter?_eq_some_iff, and_imp]

/-- A condition on a filter that is there and not null is one on this value. -/
theorem filtered_of_some {t : Trigger} {key : String} {condition : Value → Prop} {v : Value}
    (h : filter? t.config key = some v) : t.Filtered key condition ↔ condition v := by
  rw [filtered_iff, h]
  simp

/-- What is not there fulfils all conditions. -/
theorem filtered_of_none {t : Trigger} {key : String} {condition : Value → Prop}
    (h : filter? t.config key = none) : t.Filtered key condition := by
  rw [filtered_iff, h]
  simp

theorem noErrors_checkEvent {event path : String} :
    NoErrors (checkEvent event path) ↔ event ∈ Event.known := by
  unfold checkEvent
  rw [noErrors_report_error]
  simp [Event.isKnown]

/-- A filter that counts has texts only. -/
theorem noErrors_checkTextFilter {t : Trigger} {path key name : String} :
    NoErrors (checkTextFilter t.event path t.config key name) ↔ t.Filtered key TextsOnly := by
  unfold checkTextFilter
  split
  · rename_i v hv
    rw [noErrors_report_error, filtered_of_some hv, ← textsOnly_iff, Bool.not_eq_false']
  · rename_i hnone
    exact iff_of_true noErrors_nil (filtered_of_none hnone)

theorem noErrors_checkTextFilters {t : Trigger} {path : String} :
    NoErrors (checkTextFilters t.event path t.config) ↔
      (t.event = "push" ∨ t.event = "pull_request" →
        ∀ key ∈ ["branches", "tags", "paths", "paths-ignore"], t.Filtered key TextsOnly) := by
  unfold checkTextFilters
  split
  · rename_i hevent
    rw [noErrors_flatMap]
    simp only [noErrors_checkTextFilter]
    simp only [Bool.or_eq_true, decide_eq_true_eq] at hevent
    simp [hevent, textFilters]
  · rename_i hevent
    simp only [Bool.or_eq_true, decide_eq_true_eq] at hevent
    exact iff_of_true noErrors_nil fun h => absurd h hevent

/-- One event alone takes any activity types. -/
theorem activityTypes?_eq_anything_iff {event : String} :
    Event.activityTypes? event = some .anything ↔ event = "repository_dispatch" := by
  constructor
  · intro h
    obtain ⟨before, behind, htable, _⟩ := List.lookup_eq_some_iff.mp h
    have hmem : (event, ActivityTypes.anything) ∈ Event.activityTable := by
      rw [htable]
      exact List.mem_append_right _ (List.mem_cons_self ..)
    simpa [Event.activityTable] using hmem
  · rintro rfl
    rfl

theorem activityTypes?_of_workflowRun {event : String} (h : event = "workflow_run") :
    Event.activityTypes? event = some (.closed ["completed", "requested", "in_progress"]) := by
  rw [h]
  rfl

/-- Unknown types are an error for runs of workflows, and a warning elsewhere. -/
theorem noErrors_checkActivity {event path activity : String} {allowed : List String} :
    NoErrors (checkActivity event path allowed activity) ↔
      (event = "workflow_run" → activity ∈ allowed) := by
  unfold checkActivity
  dsimp only
  rcases Classical.em (event = "workflow_run") with hevent | hevent
  · rw [if_pos hevent, noErrors_report_error]
    simp [hevent]
  · rw [if_neg hevent]
    exact iff_of_true noErrors_report_warning fun h => absurd h hevent

/-- Two events restrict what may stand among their types. -/
theorem noErrors_checkTypes {t : Trigger} {path : String} :
    NoErrors (checkTypes t.event path t.config) ↔
      (t.event = "repository_dispatch" → t.Filtered "types" TextsOnly) ∧
      (t.event = "workflow_run" → t.Filtered "types" StatesOnly) := by
  unfold checkTypes
  cases hfilter : filter? t.config "types" with
  | none =>
    exact iff_of_true noErrors_nil
      ⟨fun _ => filtered_of_none hfilter, fun _ => filtered_of_none hfilter⟩
  | some v =>
    rw [filtered_of_some hfilter, filtered_of_some hfilter]
    -- the table tells the two events apart: one takes anything, the other a closed list
    cases htypes : Event.activityTypes? t.event with
    | none =>
      refine iff_of_true noErrors_nil ⟨fun hevent => ?_, fun hevent => ?_⟩
      · exact nomatch htypes.symm.trans (activityTypes?_eq_anything_iff.mpr hevent)
      · exact nomatch htypes.symm.trans (activityTypes?_of_workflowRun hevent)
    | some types =>
      cases types with
      | anything =>
        have hevent := activityTypes?_eq_anything_iff.mp htypes
        simp only [hevent, forall_const, noErrors_report_error, Bool.not_eq_false', textsOnly_iff]
        simp
      | closed allowed =>
        have hdispatch : t.event ≠ "repository_dispatch" := fun hevent =>
          nomatch htypes.symm.trans (activityTypes?_eq_anything_iff.mpr hevent)
        have hallowed : t.event = "workflow_run" →
            allowed = ["completed", "requested", "in_progress"] := fun hevent => by
          cases htypes.symm.trans (activityTypes?_of_workflowRun hevent)
          rfl
        simp only [noErrors_flatMap, noErrors_checkActivity, textIn_iff, hdispatch,
          false_implies, true_and]
        constructor
        · intro h hevent s hs
          exact hallowed hevent ▸ h s hs hevent
        · intro h s hs hevent
          exact hallowed hevent ▸ h hevent s hs

theorem namesWorkflows_iff {v : Option Value} :
    namesWorkflows v = true ↔ ∃ value, v = some value ∧ WorkflowNames value := by
  unfold namesWorkflows WorkflowNames
  split
  · simp
  · simp [Value.isString_iff, IsText]
  · rename_i hname hnames
    simp only [Bool.false_eq_true, false_iff]
    rintro ⟨_, hv, ⟨name, _, rfl⟩ | ⟨names, _, rfl, _⟩⟩
    · exact hname name hv
    · exact hnames names hv

/-- A run of workflows names these workflows. -/
theorem noErrors_checkWorkflows {t : Trigger} {path : String} :
    NoErrors (checkWorkflows t.event path t.config) ↔
      (t.event = "workflow_run" → ∃ v, t.config.get? "workflows" = some v ∧ WorkflowNames v) := by
  unfold checkWorkflows
  rw [noErrors_report_error, ← namesWorkflows_iff]
  simp

/-- The check wants every field to have a letter, which words always have. -/
theorem isCron_iff {text : String} : isCron text = true ↔ CronExpression text := by
  have hfield : ∀ field ∈ Text.words text, isRun isCronChar field.toList = true ↔
      ∀ c ∈ field.toList, c.isDigit ∨ c ∈ ['*', ',', '/', '-'] := by
    intro field hmem
    have hnonempty : field.toList ≠ [] := Text.words_nonempty hmem
    simp [isRun, isCronChar, hnonempty, or_assoc]
  unfold isCron CronExpression
  simp only [Bool.and_eq_true, beq_iff_eq, List.all_eq_true]
  exact and_congr_right fun _ => forall₂_congr hfield

/-- A schedule has a cron expression, which is a text behind any number of tags. -/
theorem noErrors_checkCron {t : Trigger} {path : String} :
    NoErrors (checkCron t.event path t.config) ↔
      (t.event = "schedule" →
        ∃ v s, t.config.get? "cron" = some v ∧ v.untagged = .string s ∧ CronExpression s) := by
  have hcron : ∀ s, t.config.cron? = some s ↔
      ∃ v, t.config.get? "cron" = some v ∧ v.untagged = .string s := by
    intro s
    unfold TriggerConfig.cron?
    simp only [Option.bind_eq_some_iff, Value.asString?_eq_some_iff]
  unfold checkCron
  split
  · rename_i hevent
    have hschedule : t.event = "schedule" := hevent
    cases hsome : t.config.cron? with
    | none =>
      -- a schedule without an expression is an error by itself
      refine iff_of_false not_noErrors_error fun h => ?_
      obtain ⟨v, s, hv, hs, _⟩ := h hschedule
      rw [(hcron s).mpr ⟨v, hv, hs⟩] at hsome
      cases hsome
    | some s =>
      rw [noErrors_report_error, Bool.not_eq_false', isCron_iff]
      obtain ⟨v, hv, hs⟩ := (hcron s).mp hsome
      constructor
      · exact fun h _ => ⟨v, s, hv, hs, h⟩
      · intro h
        -- there is one value under the key, so the expression that is meant is the one found
        obtain ⟨v', s', hv', hs', h⟩ := h hschedule
        rw [(hcron s').mpr ⟨v', hv', hs'⟩] at hsome
        cases hsome
        exact h
  · rename_i hevent
    exact iff_of_true noErrors_nil fun h => absurd h hevent

/-- A trigger without errors is a valid one, wherever it stands. -/
theorem noErrors_checkTrigger (index : Nat) (t : Trigger) :
    NoErrors (checkTrigger index t) ↔ t.Valid := by
  unfold checkTrigger
  dsimp only
  simp only [noErrors_append, noErrors_checkEvent, noErrors_checkTextFilters, noErrors_checkTypes,
    noErrors_checkWorkflows, noErrors_checkCron]
  constructor
  · rintro ⟨⟨⟨⟨hevent, hfilters⟩, hdispatch, hstates⟩, hworkflows⟩, hschedule⟩
    exact ⟨hevent, hfilters, hdispatch, hstates, hworkflows, hschedule⟩
  · rintro ⟨hevent, hfilters, hdispatch, hstates, hworkflows, hschedule⟩
    exact ⟨⟨⟨⟨hevent, hfilters⟩, hdispatch, hstates⟩, hworkflows⟩, hschedule⟩

theorem noErrors_checkTriggers {triggers : List Trigger} :
    NoErrors (checkTriggers triggers) ↔ triggers ≠ [] ∧ ∀ t ∈ triggers, t.Valid := by
  unfold checkTriggers
  split
  · rename_i hnone
    refine iff_of_false not_noErrors_error ?_
    exact fun h => h.1 (List.isEmpty_iff.mp hnone)
  · rename_i hsome
    rw [noErrors_mapIdx noErrors_checkTrigger, and_iff_right]
    exact fun hnil => hsome (List.isEmpty_iff.mpr hnil)

/-! ## Jobs -/

/-- A runner is named by a text or a list that is not empty. -/
theorem noErrors_checkRunner {options : LintOptions} {id : String} {runsOn : RunsOn} :
    NoErrors (checkRunner options id runsOn) ↔ runsOn ≠ .label "" ∧ runsOn ≠ .labels [] := by
  have hempty : runsOn.isEmpty = true ↔ runsOn = .label "" ∨ runsOn = .labels [] := by
    unfold RunsOn.isEmpty
    cases runsOn <;> simp
  unfold checkRunner
  split
  · rename_i hnone
    refine iff_of_false not_noErrors_error fun h => ?_
    rcases hempty.mp hnone with hlabel | hlabels
    · exact h.1 hlabel
    · exact h.2 hlabels
  · rename_i hsome
    refine iff_of_true (fun d hd => ?_) (not_or.mp fun h => hsome (hempty.mpr h))
    -- of a runner that is named only labels are told, and these are warnings
    obtain ⟨label, _, rfl⟩ := List.mem_map.mp hd
    rfl

theorem noErrors_checkNeeds {ids needs : List String} {id : String} :
    NoErrors (checkNeeds ids id needs) ↔ ∀ need ∈ needs, need ∈ ids := by
  unfold checkNeeds
  rw [noErrors_map fun _ => rfl, List.filter_eq_nil_iff]
  simp

theorem hasValues_iff {v : Value} :
    hasValues v = true ↔ NonEmptyList v := by
  unfold hasValues NonEmptyList
  rw [Option.any_eq_true]
  simp [Value.asSequence?_eq_some_iff]

/-- Every variable of a matrix has values to choose from. -/
theorem noErrors_checkMatrix {id : String} {matrix : ValueMap} :
    NoErrors (checkMatrix id matrix) ↔ ∀ e ∈ matrix.entries, NonEmptyList e.2 := by
  unfold checkMatrix
  dsimp only
  rw [noErrors_append, and_iff_right noErrors_report_warning, noErrors_map fun _ => rfl,
    List.filter_eq_nil_iff]
  simp only [Bool.not_eq_true', Bool.not_eq_false, hasValues_iff]

/-- A strategy needs values for its variables, and room for one job at least. -/
theorem noErrors_checkStrategy {id : String} {strategy : Option Strategy} :
    NoErrors (checkStrategy id strategy) ↔
      (∀ s matrix, strategy = some s → s.matrix = some matrix →
        ∀ e ∈ matrix.entries, NonEmptyList e.2) ∧
      ∀ s n, strategy = some s → s.maxParallel = some n → 1 ≤ n := by
  cases strategy with
  | none => exact iff_of_true noErrors_nil ⟨fun _ _ h => (nomatch h), fun _ _ h => (nomatch h)⟩
  | some s =>
    -- the two parts of a strategy are checked apart, and each of them may be missing
    have hmatrix : NoErrors ((s.matrix.map (checkMatrix id)).getD []) ↔
        ∀ matrix, s.matrix = some matrix → ∀ e ∈ matrix.entries, NonEmptyList e.2 := by
      cases s.matrix with
      | none => exact iff_of_true noErrors_nil fun _ h => nomatch h
      | some matrix =>
        simp only [Option.map_some, Option.getD_some, noErrors_checkMatrix, Option.some.injEq,
          forall_eq']
    have hparallel : (s.maxParallel.any (· < 1)) = false ↔ ∀ n, s.maxParallel = some n → 1 ≤ n := by
      cases s.maxParallel <;> simp [Int64.not_lt]
    unfold checkStrategy
    dsimp only
    rw [noErrors_append, hmatrix, noErrors_report_error, hparallel]
    constructor
    · rintro ⟨hmatrix, hparallel⟩
      refine ⟨fun s' matrix hs => ?_, fun s' n hs => ?_⟩
      · cases hs
        exact hmatrix matrix
      · cases hs
        exact hparallel n
    · rintro ⟨hmatrix, hparallel⟩
      exact ⟨fun matrix => hmatrix s matrix rfl, fun n => hparallel s n rfl⟩

theorem isGiven_iff {text : Option String} : isGiven text = true ↔ Given text := by
  unfold isGiven Given
  cases text <;> simp

/-- A step runs a command or uses an action, and not both. -/
theorem noErrors_checkStep (id : String) (index : Nat) (step : Step) :
    NoErrors (checkStep id index step) ↔ step.DoesOneThing := by
  unfold checkStep Step.DoesOneThing
  dsimp only
  -- the reference of an action is only warned about
  rw [noErrors_append, noErrors_append, and_iff_left noErrors_report_warning, noErrors_report_error,
    noErrors_report_error, ← isGiven_iff, ← isGiven_iff]
  cases isGiven step.run <;> cases isGiven step.uses <;> decide

/-- Having no steps is but a warning. -/
theorem noErrors_checkSteps {id : String} {steps : List Step} :
    NoErrors (checkSteps id steps) ↔ ∀ step ∈ steps, step.DoesOneThing := by
  unfold checkSteps
  split
  · rename_i hnone
    -- a job without steps is only warned about
    rw [List.isEmpty_iff.mp hnone]
    refine iff_of_true (fun d hd => ?_) fun _ hstep => absurd hstep List.not_mem_nil
    cases List.mem_singleton.mp hd
    rfl
  · exact noErrors_mapIdx (noErrors_checkStep id)

/-- A job without errors is a valid one that needs nothing but jobs. -/
theorem noErrors_checkJob {options : LintOptions} {ids : List String} {id : String} {j : Job} :
    NoErrors (checkJob options ids id j) ↔ j.Valid ∧ ∀ need ∈ j.needsList, need ∈ ids := by
  unfold checkJob
  rw [noErrors_append, noErrors_append, noErrors_append, noErrors_checkRunner, noErrors_checkNeeds,
    noErrors_checkStrategy, noErrors_checkSteps]
  constructor
  · rintro ⟨⟨⟨hrunner, hneeds⟩, hmatrix, hparallel⟩, hsteps⟩
    exact ⟨⟨hrunner, hmatrix, hparallel, hsteps⟩, hneeds⟩
  · rintro ⟨⟨hrunner, hmatrix, hparallel, hsteps⟩, hneeds⟩
    exact ⟨⟨⟨hrunner, hneeds⟩, hmatrix, hparallel⟩, hsteps⟩

/-! ## Workflows -/

/-- By the search for cycles, which is complete. -/
theorem noErrors_checkCycles {jobs : KeyedList Job} :
    NoErrors (checkCycles jobs) ↔ ¬Cyclic jobs := by
  unfold checkCycles
  rw [noErrors_map fun _ => rfl, cycleJobs_eq_nil_iff]

/-- Jobs without errors are valid ones, of which there are some, with sound needs. -/
theorem noErrors_checkJobs {options : LintOptions} {w : Workflow} :
    NoErrors (checkJobs options w.jobs) ↔
      w.jobs.keys ≠ [] ∧ w.SoundNeeds ∧ ∀ e ∈ w.jobs.entries, e.2.Valid := by
  -- the needs are checked job by job, but sound or not as a whole
  have hneeds : (∀ e ∈ w.jobs.entries, ∀ need ∈ e.2.needsList, need ∈ w.jobs.keys) ↔
      ∀ id need, Requires w.jobs id need → need ∈ w.jobs.keys := by
    simp only [requires_iff, KeyedList.get?_eq_some_iff]
    constructor
    · rintro h id need ⟨j, hj, hneed⟩
      exact h (id, j) hj need hneed
    · exact fun h e he need hneed => h e.1 need ⟨e.2, he, hneed⟩
  unfold checkJobs
  split
  · rename_i hnone
    refine iff_of_false not_noErrors_error ?_
    exact fun h => h.1 (keys_of_isEmpty hnone)
  · rename_i hsome
    have hkeys : w.jobs.keys ≠ [] := fun hnil =>
      hsome (List.isEmpty_iff.mpr (List.map_eq_nil_iff.mp hnil))
    rw [noErrors_append, noErrors_checkCycles, noErrors_flatMap]
    simp only [noErrors_checkJob]
    constructor
    · rintro ⟨hacyclic, hjobs⟩
      exact ⟨hkeys, ⟨hneeds.mp fun e he => (hjobs e he).2, hacyclic⟩, fun e he => (hjobs e he).1⟩
    · rintro ⟨_, hsound, hjobs⟩
      exact ⟨hsound.acyclic, fun e he => ⟨hjobs e he, hneeds.mpr hsound.exist e he⟩⟩

end Lint

/-- **The checks tell of no error exactly where a workflow is valid.** -/
theorem Workflow.lint_noErrors_iff_valid (w : Workflow) :
    (∀ d ∈ w.lint, d.isError = false) ↔ w.Valid := by
  show Lint.NoErrors (Lint.checkTriggers w.triggers ++ Lint.checkJobs {} w.jobs) ↔ w.Valid
  rw [Lint.noErrors_append, Lint.noErrors_checkTriggers, Lint.noErrors_checkJobs]
  constructor
  · rintro ⟨⟨htriggered, htriggers⟩, hinhabited, hneeds, hjobs⟩
    exact ⟨htriggered, htriggers, hinhabited, hneeds, hjobs⟩
  · rintro ⟨htriggered, htriggers, hinhabited, hneeds, hjobs⟩
    exact ⟨⟨htriggered, htriggers⟩, hinhabited, hneeds, hjobs⟩

end CiWorkflow
