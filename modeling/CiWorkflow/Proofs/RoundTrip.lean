import CiWorkflow.Proofs.Written
import CiWorkflow.Workflow.Text
import Mathlib.Data.List.Basic
/-!
# Round Trips

A workflow that is written and read again comes back in its normal form, and a workflow that was
read is in normal form already. The levels of the model are treated one by one: a step, a job, a
workflow. On every level the fields read back (see `Written`), and the entries that the model does
not know are told apart from the fields by their keys.

The text itself is left to the writer and the reader of YAML values: `Workflow.SurvivesText` says
that the value of a workflow is written, and that reading the text gives that value.
-/

namespace CiWorkflow

open Yaml (Value Entries Node)

/-! ## Steps -/

/-- The entries that are written of a step. -/
def Step.written (s : Step) : Entries :=
  optionalEntry "id" .string s.id ++
    optionalEntry "name" .string s.name ++
    optionalEntry "uses" .string s.uses ++
    optionalEntry "run" .string s.run ++
    optionalEntry "with" ValueMap.toValue (ValueMap.nonEmpty? s.arguments) ++
    optionalEntry "env" ValueMap.toValue (ValueMap.nonEmpty? s.env) ++
    optionalEntry "shell" .string s.shell ++
    s.extra

/-- The entries above are those that the encoder writes. -/
theorem Step.toValue_toNode (s : Step) : s.toNode.toValue = .mapping s.written := by
  simp [toNode, written, Node.toValue]

/-- What a step carries along is recognized by its keys and comes back in its order. -/
theorem Step.passthrough_written {s : Step} (h : Foreign stepKeys s.extra) :
    passthrough stepKeys s.written = s.extra := by
  simp (disch := decide) only [written, passthrough_append, passthrough_optionalEntry,
    List.nil_append, h.passthrough_eq]

/-- What is written of a step is read as the step without its empty maps, wherever it stands. -/
theorem Step.ofValue_written {s : Step} (h : Foreign stepKeys s.extra) (index : Nat) :
    Step.ofValue index (.mapping s.written) = s.normalize := by
  -- field by field: what is written before and behind it has other keys
  have hid : (field? s.written "id").bind Value.scalarText? = s.id :=
    bind_field?_string (by simp (disch := decide) [written, h.get?_eq_none])
  have hname : (field? s.written "name").bind Value.scalarText? = s.name :=
    bind_field?_string (by simp (disch := decide) [written, h.get?_eq_none])
  have huses : (field? s.written "uses").bind Value.scalarText? = s.uses :=
    bind_field?_string (by simp (disch := decide) [written, h.get?_eq_none])
  have hrun : (field? s.written "run").bind Value.scalarText? = s.run :=
    bind_field?_string (by simp (disch := decide) [written, h.get?_eq_none])
  have hwith : (field? s.written "with").bind ValueMap.ofNonEmpty? =
      ValueMap.nonEmpty? s.arguments :=
    bind_field?_eq (by simp (disch := decide) [written, h.get?_eq_none])
      ValueMap.readsBack_nonEmpty
  have henv : (field? s.written "env").bind ValueMap.ofNonEmpty? = ValueMap.nonEmpty? s.env :=
    bind_field?_eq (by simp (disch := decide) [written, h.get?_eq_none])
      ValueMap.readsBack_nonEmpty
  have hshell : (field? s.written "shell").bind Value.scalarText? = s.shell :=
    bind_field?_string (by simp (disch := decide) [written, h.get?_eq_none])
  simp only [ofValue, normalize, hid, hname, huses, hrun, hwith, henv, hshell,
    passthrough_written h]

/-! ## Jobs -/

/-- The value that is written of the steps of a job. -/
def stepsValue (steps : List Step) : Value := .sequence (steps.map fun s => .mapping s.written)

/-- The entries that are written of a job. -/
def Job.written (j : Job) : Entries :=
  optionalEntry "name" .string j.name ++
    optionalEntry "runs-on" RunsOn.toValue (some j.runsOn) ++
    optionalEntry "needs" Needs.toValue j.needs ++
    optionalEntry "permissions" ValueMap.toValue j.permissions ++
    optionalEntry "env" ValueMap.toValue j.env ++
    optionalEntry "strategy" Strategy.toValue (j.strategy.filter fun s => !s.isUnset) ++
    j.extra ++
    optionalEntry "steps" stepsValue (some j.steps)

/-- No entry that a job or one of its steps carries along has the key of a field. -/
structure Job.ForeignExtras (j : Job) : Prop where
  /-- The entries of the job itself. -/
  own : Foreign jobKeys j.extra
  steps : ∀ s ∈ j.steps, Foreign stepKeys s.extra

instance (j : Job) : Decidable j.ForeignExtras :=
  decidable_of_iff (Foreign jobKeys j.extra ∧ ∀ s ∈ j.steps, Foreign stepKeys s.extra)
    ⟨fun h => ⟨h.1, h.2⟩, fun h => ⟨h.own, h.steps⟩⟩

theorem toEntries_fieldNode (name : String) (n : Node) :
    Node.toEntries [fieldNode name n] = [(.string name, n.toValue)] := rfl

theorem Job.toValue_toNode (j : Job) : j.toNode.toValue = .mapping j.written := by
  have hsteps : (Node.list (j.steps.map Step.toNode)).toValue = stepsValue j.steps := by
    simp [Node.toValue, toValues_eq_map, stepsValue, Step.toValue_toNode]
  rw [toNode, Node.toValue, written]
  simp only [toEntries_append, toEntries_optionalField, toEntries_extraFields,
    toEntries_fieldNode, hsteps]
  rfl

theorem Job.passthrough_written {j : Job} (h : Foreign jobKeys j.extra) :
    passthrough jobKeys j.written = j.extra := by
  simp (disch := decide) only [written, passthrough_append, passthrough_optionalEntry,
    List.nil_append, List.append_nil, h.passthrough_eq]

/-- Steps are read back one by one, in their order. -/
theorem stepsOfValue_stepsValue {steps : List Step}
    (h : ∀ s ∈ steps, Foreign stepKeys s.extra) :
    stepsOfValue (stepsValue steps) = steps.map Step.normalize := by
  rw [stepsValue, stepsOfValue, List.mapIdx_eq_iff]
  intro i
  rw [List.getElem?_map, List.getElem?_map, Option.map_map]
  cases hs : steps[i]? with
  | none => rfl
  | some s => exact congrArg some (Step.ofValue_written (h s (List.mem_of_getElem? hs)) i).symm

/-- What is written of a job is read as the job in its normal form. -/
theorem Job.ofEntries_written {j : Job} (h : j.ForeignExtras) :
    Job.ofEntries j.written = j.normalize := by
  have hown := h.own
  have hname : (field? j.written "name").bind Value.scalarText? = j.name :=
    bind_field?_string (by simp (disch := decide) [written, hown.get?_eq_none])
  have hrunsOn : (field? j.written "runs-on").bind RunsOn.ofValue? = some j.runsOn :=
    bind_field?_eq (by simp (disch := decide) [written, hown.get?_eq_none])
      fun r _ => r.readsBack
  have hneeds : (field? j.written "needs").bind Needs.ofValue? = j.needs :=
    bind_field?_eq (by simp (disch := decide) [written, hown.get?_eq_none])
      fun n _ => n.readsBack
  have hpermissions : (field? j.written "permissions").bind ValueMap.ofValue? = j.permissions :=
    bind_field?_eq (by simp (disch := decide) [written, hown.get?_eq_none])
      fun m _ => m.readsBack
  have henv : (field? j.written "env").bind ValueMap.ofValue? = j.env :=
    bind_field?_eq (by simp (disch := decide) [written, hown.get?_eq_none])
      fun m _ => m.readsBack
  have hstrategy : (field? j.written "strategy").bind Strategy.ofValue? =
      j.strategy.filter fun s => !s.isUnset :=
    bind_field?_eq (by simp (disch := decide) [written, hown.get?_eq_none]) fun s hs =>
      Strategy.readsBack (by simpa using (Option.filter_eq_some_iff.mp hs).2)
  have hsteps : field? j.written "steps" = some (stepsValue j.steps) := by
    -- the steps are written always, so that nothing has to be read back for their absence
    rw [field?, show j.written.get? "steps" = some (stepsValue j.steps) by
      simp (disch := decide) [written, hown.get?_eq_none]]
    rfl
  simp only [ofEntries, normalize, hname, hrunsOn, hneeds, hpermissions, henv, hstrategy, hsteps,
    passthrough_written hown, Option.getD_some, Option.map_some, stepsOfValue_stepsValue h.steps]

/-! ## Workflows -/

/-- The value that is written of the jobs of a workflow. -/
def jobsValue (jobs : KeyedList Job) : Value :=
  .mapping (jobs.entries.map fun e => (.string e.1, .mapping e.2.written))

/-- The entries that are written of a workflow. -/
def Workflow.written (w : Workflow) : Entries :=
  optionalEntry "name" .string w.name ++
    optionalEntry "run-name" .string w.runName ++
    optionalEntry "on" On.toValue (some w.on) ++
    optionalEntry "env" ValueMap.toValue (ValueMap.nonEmpty? w.env) ++
    w.extra ++
    optionalEntry "jobs" jobsValue (some w.jobs)

/-- No entry that a workflow, one of its jobs or one of their steps carries along has the key of a
field, be it behind a tag. -/
structure Workflow.ForeignExtras (w : Workflow) : Prop where
  /-- The entries of the workflow itself. -/
  own : Foreign workflowKeys w.extra
  jobs : ∀ e ∈ w.jobs.entries, e.2.ForeignExtras

instance (w : Workflow) : Decidable w.ForeignExtras :=
  decidable_of_iff (Foreign workflowKeys w.extra ∧ ∀ e ∈ w.jobs.entries, e.2.ForeignExtras)
    ⟨fun h => ⟨h.1, h.2⟩, fun h => ⟨h.own, h.jobs⟩⟩

/-- The entries above are those that the encoder writes of a workflow, its jobs included. -/
theorem Workflow.toValue_eq (w : Workflow) : w.toValue = .mapping w.written := by
  have hjobs : (Node.record (w.jobs.entries.map fun e => fieldNode e.1 e.2.toNode)).toValue =
      jobsValue w.jobs := by
    rw [Node.toValue, toEntries_eq_map, List.map_map, jobsValue]
    refine congrArg Value.mapping (List.map_congr_left fun e _ => ?_)
    exact congrArg (Prod.mk _) e.2.toValue_toNode
  rw [toValue, toNode, Node.toValue, written]
  simp only [toEntries_append, toEntries_optionalField, toEntries_extraFields,
    toEntries_fieldNode, On.toValue_toNode, hjobs]
  rfl

theorem Workflow.passthrough_written {w : Workflow} (h : Foreign workflowKeys w.extra) :
    passthrough workflowKeys w.written = w.extra := by
  simp (disch := decide) only [written, passthrough_append, passthrough_optionalEntry,
    List.nil_append, List.append_nil, h.passthrough_eq]

/-- All of a workflow but its jobs is read back. -/
theorem Workflow.headOfEntries_written {w : Workflow} (h : Foreign workflowKeys w.extra) :
    headOfEntries w.written = { w.normalize with jobs := .empty } := by
  have hname : (field? w.written "name").bind Value.scalarText? = w.name :=
    bind_field?_string (by simp (disch := decide) [written, h.get?_eq_none])
  have hrunName : (field? w.written "run-name").bind Value.scalarText? = w.runName :=
    bind_field?_string (by simp (disch := decide) [written, h.get?_eq_none])
  have hon : (field? w.written "on").bind On.ofValue? = some w.on :=
    bind_field?_eq (by simp (disch := decide) [written, h.get?_eq_none]) fun on _ => on.readsBack
  have henv : (field? w.written "env").bind ValueMap.ofNonEmpty? = ValueMap.nonEmpty? w.env :=
    bind_field?_eq (by simp (disch := decide) [written, h.get?_eq_none])
      ValueMap.readsBack_nonEmpty
  simp only [headOfEntries, normalize, hname, hrunName, hon, henv, Option.getD_some,
    passthrough_written h]

/-- Every job that is written is read, in its normal form, under its id and in its place. -/
theorem filterMap_jobOfEntry?_jobsValue {jobs : KeyedList Job}
    (h : ∀ e ∈ jobs.entries, e.2.ForeignExtras) :
    (jobs.entries.map fun e => (Value.string e.1, Value.mapping e.2.written)).filterMap
      jobOfEntry? = (jobs.mapValues Job.normalize).entries := by
  rw [List.filterMap_map, KeyedList.entries_mapValues, ← List.filterMap_eq_map']
  apply List.filterMap_congr
  intro e he
  exact congrArg (fun job => some (e.1, job)) (Job.ofEntries_written (h e he))

/-- No job that is written is a problem when it is read. -/
theorem filterMap_problemOfEntry?_jobsValue (jobs : KeyedList Job) :
    (jobs.entries.map fun e => (Value.string e.1, Value.mapping e.2.written)).filterMap
      problemOfEntry? = [] := by
  rw [List.filterMap_map, List.filterMap_eq_nil_iff]
  exact fun _ _ => rfl

/-- **Reading undoes writing**: the value of a workflow is read as its normal form, without any
problem. -/
theorem Workflow.ofValue_toValue {w : Workflow} (h : w.ForeignExtras) :
    ofValue w.toValue = ⟨w.normalize, []⟩ := by
  have hjobs : field? w.written "jobs" = some (jobsValue w.jobs) := by
    rw [field?, show w.written.get? "jobs" = some (jobsValue w.jobs) by
      simp (disch := decide) [written, h.own.get?_eq_none]]
    rfl
  rw [toValue_eq, ofValue, ofEntries, hjobs, jobsValue]
  simp only [headOfEntries_written h.own, filterMap_jobOfEntry?_jobsValue h.jobs,
    filterMap_problemOfEntry?_jobsValue, KeyedList.ofList_entries]
  rfl

/-! ## What is read -/

theorem ValueMap.nonEmpty?_nonEmpty? (m : Option ValueMap) :
    nonEmpty? (nonEmpty? m) = nonEmpty? m := by
  simp only [nonEmpty?, Option.filter_filter, Bool.and_self]

/-- A map that was read is absent or has entries. -/
theorem ValueMap.nonEmpty?_bind_ofNonEmpty? (v : Option Value) :
    nonEmpty? (v.bind ofNonEmpty?) = v.bind ofNonEmpty? := by
  cases v with
  | none => rfl
  | some v => exact nonEmpty?_nonEmpty? (ofValue? v)

/-- A strategy that was read sets something, or it would have been read as absent. -/
theorem Strategy.isUnset_of_ofValue? {v : Value} {s : Strategy} (h : ofValue? v = some s) :
    s.isUnset = false := by
  unfold ofValue? at h
  split at h
  · dsimp only at h
    split at h
    · cases h
    · next hset => cases h; simpa using hset
  · cases h

/-- A step that was read is in its normal form. -/
theorem Step.normalize_ofValue (index : Nat) (v : Value) :
    (Step.ofValue index v).normalize = Step.ofValue index v := by
  unfold ofValue
  split
  · simp only [normalize, ValueMap.nonEmpty?_bind_ofNonEmpty?]
  · rfl

theorem Step.foreign_ofValue (index : Nat) (v : Value) :
    Foreign stepKeys (Step.ofValue index v).extra := by
  unfold ofValue
  split
  · exact foreign_passthrough _ _
  · exact fun _ he => absurd he List.not_mem_nil

theorem exists_ofValue_of_mem_stepsOfValue {v : Value} {s : Step} (h : s ∈ stepsOfValue v) :
    ∃ index item, s = Step.ofValue index item := by
  unfold stepsOfValue at h
  split at h
  · obtain ⟨index, hindex, rfl⟩ := List.mem_mapIdx.mp h
    exact ⟨index, _, rfl⟩
  · cases h

theorem exists_ofValue_of_mem_steps {entries : Entries} {s : Step}
    (h : s ∈ (Job.ofEntries entries).steps) : ∃ index item, s = Step.ofValue index item := by
  unfold Job.ofEntries at h
  cases hfield : field? entries "steps" with
  | none => simp [hfield] at h
  | some v =>
    simp only [hfield, Option.map_some, Option.getD_some] at h
    exact exists_ofValue_of_mem_stepsOfValue h

/-- A job that was read is in its normal form. -/
theorem Job.normalize_ofEntries (entries : Entries) :
    (Job.ofEntries entries).normalize = Job.ofEntries entries := by
  have hstrategy : (Job.ofEntries entries).strategy.filter (fun s => !s.isUnset) =
      (Job.ofEntries entries).strategy := by
    cases hs : (Job.ofEntries entries).strategy with
    | none => rfl
    | some s =>
      obtain ⟨v, _, hv⟩ := Option.bind_eq_some_iff.mp hs
      simp [Strategy.isUnset_of_ofValue? hv]
  have hsteps : (Job.ofEntries entries).steps.map Step.normalize =
      (Job.ofEntries entries).steps := by
    -- the sides are two maps over the steps, of which the second one changes nothing
    conv_rhs => rw [← List.map_id (Job.ofEntries entries).steps]
    apply List.map_congr_left
    intro s hs
    obtain ⟨index, item, rfl⟩ := exists_ofValue_of_mem_steps hs
    exact Step.normalize_ofValue index item
  rw [normalize, hstrategy, hsteps]

/-- Neither a job that was read nor any of its steps carries a key of a field along. -/
theorem Job.foreignExtras_ofEntries (entries : Entries) :
    (Job.ofEntries entries).ForeignExtras where
  own := foreign_passthrough _ _
  steps := by
    intro s hs
    obtain ⟨index, item, rfl⟩ := exists_ofValue_of_mem_steps hs
    exact Step.foreign_ofValue index item

/-- A workflow that reading leaves as it is: it carries no modelled key along, and no field of it
is written as if it were absent. -/
structure Workflow.Canonical (w : Workflow) : Prop where
  /-- What it carries along is foreign. -/
  foreign : w.ForeignExtras
  normal : w.normalize = w

theorem exists_ofEntries_of_jobOfEntry? {entry : Value × Value} {e : String × Job}
    (h : jobOfEntry? entry = some e) : ∃ entries, e.2 = Job.ofEntries entries := by
  unfold jobOfEntry? at h
  split at h
  · obtain ⟨id, _, rfl⟩ := Option.map_eq_some_iff.mp h
    exact ⟨_, rfl⟩
  · cases h

/-- For a workflow it is enough that its jobs were read, wherever they come from. -/
theorem Workflow.canonical_of_jobs {w : Workflow} (hown : Foreign workflowKeys w.extra)
    (henv : ValueMap.nonEmpty? w.env = w.env)
    (hjobs : ∀ e ∈ w.jobs.entries, ∃ entries, e.2 = Job.ofEntries entries) : w.Canonical := by
  constructor
  · refine ⟨hown, fun e he => ?_⟩
    obtain ⟨entries, hentries⟩ := hjobs e he
    exact hentries ▸ Job.foreignExtras_ofEntries entries
  · -- a job that was read of entries is in its normal form
    have hnormal : w.jobs.mapValues Job.normalize = w.jobs := by
      apply KeyedList.mapValues_eq_self
      intro e he
      obtain ⟨entries, hentries⟩ := hjobs e he
      rw [hentries, Job.normalize_ofEntries]
    rw [normalize, henv, hnormal]

/-- Reading makes canonical workflows also of documents without jobs. -/
theorem Workflow.canonical_ofEntries (entries : Entries) :
    (Workflow.ofEntries entries).workflow.Canonical := by
  unfold ofEntries
  dsimp only
  split
  · refine canonical_of_jobs (foreign_passthrough _ _)
      (ValueMap.nonEmpty?_bind_ofNonEmpty? _) fun e he => ?_
    obtain ⟨entry, _, hentry⟩ := List.mem_filterMap.mp (KeyedList.mem_of_mem_ofList he)
    exact exists_ofEntries_of_jobOfEntry? hentry
  · exact canonical_of_jobs (foreign_passthrough _ _)
      (ValueMap.nonEmpty?_bind_ofNonEmpty? _) fun e he => absurd he List.not_mem_nil

theorem Workflow.canonical_unusable : Workflow.unusable.Canonical :=
  canonical_of_jobs (fun _ he => absurd he List.not_mem_nil) rfl
    fun _ he => absurd he List.not_mem_nil

theorem Workflow.canonical_ofValue (v : Value) : (Workflow.ofValue v).workflow.Canonical := by
  unfold ofValue
  split
  · exact canonical_ofEntries _
  · exact canonical_unusable

/-- Whatever the text, the workflow that comes of it is canonical. -/
theorem Workflow.canonical_ofText (text : String) : (Workflow.ofText text).workflow.Canonical := by
  unfold ofText
  split
  · exact canonical_ofValue _
  · exact canonical_unusable

/-! ## Through the text -/

/-- The value of a workflow is written as a text, and reading the text gives that value. -/
def Workflow.SurvivesText (w : Workflow) : Prop :=
  ∃ text, w.toText = .ok text ∧ Value.ofText text = .ok w.toValue

/-- Whether a result is a given value can be decided. -/
instance decidableEqOk {ε α : Type} [DecidableEq α] (r : Except ε α) (a : α) :
    Decidable (r = .ok a) :=
  match r with
  | .ok b => decidable_of_iff (b = a) ⟨congrArg _, Except.ok.inj⟩
  | .error _ => isFalse fun h => nomatch h

/-- Whether a result is a value with a certain property can be decided. -/
instance decidableExistsOk {ε α : Type} {p : α → Prop} [DecidablePred p] (r : Except ε α) :
    Decidable (∃ a, r = .ok a ∧ p a) :=
  match r with
  | .ok a => decidable_of_iff (p a) ⟨fun h => ⟨a, rfl, h⟩, fun ⟨_, ha, h⟩ => Except.ok.inj ha ▸ h⟩
  | .error _ => isFalse fun ⟨_, ha, _⟩ => nomatch ha

instance (w : Workflow) : Decidable w.SurvivesText :=
  inferInstanceAs (Decidable (∃ text, w.toText = .ok text ∧ Value.ofText text = .ok w.toValue))

theorem Workflow.ofText_of_ok {text : String} {v : Value} (h : Value.ofText text = .ok v) :
    ofText text = ofValue v := by
  unfold ofText
  rw [h]

/-- All that the text has to do is to give back its value, and the rest follows from
`ofValue_toValue`. -/
theorem Workflow.SurvivesText.exists_ofText {w : Workflow} (h : w.SurvivesText)
    (hforeign : w.ForeignExtras) :
    ∃ text, w.toText = .ok text ∧ Workflow.ofText text = ⟨w.normalize, []⟩ := by
  obtain ⟨text, hwrite, hread⟩ := h
  refine ⟨text, hwrite, ?_⟩
  rw [ofText_of_ok hread, ofValue_toValue hforeign]

/-- **Round trip**: a workflow that carries no modelled key along is written and read back, without
problems, as its normal form. A workflow that was read of any text at all is of that kind and in
normal form already, so it comes back as it is, and its text does not change any more. -/
theorem ofText_toText_eq_normalize :
    (∀ w : Workflow, w.ForeignExtras → w.SurvivesText →
      ∃ text, w.toText = .ok text ∧ Workflow.ofText text = ⟨w.normalize, []⟩) ∧
    ∀ source : String,
      (Workflow.ofText source).workflow.ForeignExtras ∧
      (Workflow.ofText source).workflow.normalize = (Workflow.ofText source).workflow ∧
      ((Workflow.ofText source).workflow.SurvivesText →
        (Workflow.ofText source).workflow.reloadMessages = [] ∧
        ∃ text, (Workflow.ofText source).workflow.toText = .ok text ∧
          Workflow.ofText text = ⟨(Workflow.ofText source).workflow, []⟩ ∧
          (Workflow.ofText text).workflow.toText = .ok text) := by
  refine ⟨fun w hforeign hsurvives => hsurvives.exists_ofText hforeign, fun source => ?_⟩
  obtain ⟨hforeign, hnormal⟩ := Workflow.canonical_ofText source
  refine ⟨hforeign, hnormal, fun hsurvives => ?_⟩
  obtain ⟨text, hwrite, hread⟩ := hsurvives.exists_ofText hforeign
  rw [hnormal] at hread
  refine ⟨?_, text, hwrite, hread, by rw [hread, hwrite]⟩
  unfold Workflow.reloadMessages
  simp only [hwrite, hread, Reading.messages, List.map_nil]

/-- A workflow with an empty field of every kind that is not written, and with a foreign entry. -/
def sparseWorkflow : Workflow :=
  { env := some .empty
    extra := [(.string "x", .bool true)]
    jobs := .singleton "a"
      { runsOn := .labels []
        needs := some (.many [])
        strategy := some {}
        steps := [{ arguments := some .empty, env := some .empty }] } }

/-- The sparse workflow loses its empty fields, and a text with a problem is read to a workflow that
loses nothing. -/
theorem ofText_toText_eq_normalize_sparse :
    (sparseWorkflow.ForeignExtras ∧ sparseWorkflow.SurvivesText ∧
      sparseWorkflow.normalize ≠ sparseWorkflow ∧
      ∃ text, sparseWorkflow.toText = .ok text ∧
        Workflow.ofText text = ⟨sparseWorkflow.normalize, []⟩) ∧
    (Workflow.ofText "jobs: {a: 1}").problems = [.jobNotMapping "a"] ∧
    (Workflow.ofText "jobs: {a: 1}").workflow.SurvivesText ∧
    (Workflow.ofText "jobs: {a: 1}").workflow.reloadMessages = [] := by
  have hforeign : sparseWorkflow.ForeignExtras := by decide +kernel
  have hsurvives : sparseWorkflow.SurvivesText := by decide +kernel
  have hread : (Workflow.ofText "jobs: {a: 1}").workflow.SurvivesText := by decide +kernel
  exact ⟨⟨hforeign, hsurvives, by decide +kernel,
      ofText_toText_eq_normalize.1 sparseWorkflow hforeign hsurvives⟩,
    by decide +kernel, hread, ((ofText_toText_eq_normalize.2 "jobs: {a: 1}").2.2 hread).1⟩

end CiWorkflow
