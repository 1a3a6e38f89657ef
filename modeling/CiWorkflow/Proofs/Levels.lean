import CiWorkflow.Workflow.Level
import CiWorkflow.Proofs.CycleSearch
/-!
# The Columns of Jobs

Columns are made from left to right, each of them from the jobs that are placed and the jobs that
are left. What a column holds is said by these two lists alone, and both are known from the columns
before it. So every question about a column is one about `nextColumn`, which either takes the jobs
that are ready or, where there are none, a job by force.

## Layers

- **One column**: it is taken from the jobs that are left, and takes at least one of them.
- **Runs without a bound**: `Levelling` makes columns until no job is left, and the bound of the
  columns of a workflow is never met.
- **All columns**: every job is in one of them, no job in two, and each column is the next one after
  those before it.
- **Sound needs**: where needs have no cycle and name jobs only, some job is always ready.
- **Checks and columns agree** on which needs are sound.
-/

namespace CiWorkflow

open Relation

variable {needs : String → List String}

/-! ## One column -/

/-- What is ready needs nothing but what is placed. -/
theorem mem_readyJobs {placed left : List String} {id : String} :
    id ∈ readyJobs needs placed left ↔ id ∈ left ∧ ∀ need ∈ needs id, need ∈ placed := by
  simp [readyJobs]

/-- Nothing is ready where every job that is left waits for something. -/
theorem readyJobs_eq_nil_iff {placed left : List String} :
    readyJobs needs placed left = [] ↔ ∀ id ∈ left, ∃ need ∈ needs id, need ∉ placed := by
  simp [readyJobs, List.filter_eq_nil_iff]

theorem nextColumn_of_ready {placed left : List String} (h : readyJobs needs placed left ≠ []) :
    nextColumn needs placed left = readyJobs needs placed left := by
  unfold nextColumn
  split
  · contradiction
  · rfl

theorem nextColumn_of_not_ready {placed left : List String}
    (h : readyJobs needs placed left = []) : nextColumn needs placed left = left.take 1 := by
  unfold nextColumn
  rw [h]

/-- A column is taken from what is left, in its order. -/
theorem nextColumn_sublist (needs : String → List String) (placed left : List String) :
    (nextColumn needs placed left).Sublist left := by
  rcases Classical.em (readyJobs needs placed left = []) with hnone | hready
  · rw [nextColumn_of_not_ready hnone]
    exact List.take_sublist 1 left
  · rw [nextColumn_of_ready hready]
    exact List.filter_sublist

/-- As long as something is left, a column gets some of it. -/
theorem nextColumn_ne_nil (needs : String → List String) (placed : List String)
    {left : List String} (h : left ≠ []) :
    nextColumn needs placed left ≠ [] := by
  rcases Classical.em (readyJobs needs placed left = []) with hnone | hready
  · rw [nextColumn_of_not_ready hnone]
    simpa using h
  · rw [nextColumn_of_ready hready]
    exact hready

/-! ## Runs without a bound -/

/-- The ids of a list that are not among the placed ones. -/
def leftOf (ids placed : List String) : List String := ids.filter fun id => !placed.contains id

@[simp] theorem mem_leftOf {ids placed : List String} {id : String} :
    id ∈ leftOf ids placed ↔ id ∈ ids ∧ id ∉ placed := by
  simp [leftOf]

theorem leftOf_nil (ids : List String) : leftOf ids [] = ids := by
  simp [leftOf]

theorem leftOf_append (ids placed column : List String) :
    leftOf ids (placed ++ column) = leftOf (leftOf ids placed) column := by
  unfold leftOf
  rw [List.filter_filter]
  apply List.filter_congr
  intro id _
  rw [List.contains_eq_mem, List.contains_eq_mem, List.contains_eq_mem]
  simp only [List.mem_append, Bool.decide_or, Bool.not_or, Bool.and_comm]

/-- Columns are made until no job is left. -/
inductive Levelling (needs : String → List String) :
    List String → List String → List (List String) → Prop where
  | done (placed : List String) : Levelling needs placed [] []
  | column {placed left : List String} {columns : List (List String)} (hleft : left ≠ [])
      (hrest : Levelling needs (placed ++ nextColumn needs placed left)
        (leftOf left (nextColumn needs placed left)) columns) :
      Levelling needs placed left (nextColumn needs placed left :: columns)

/-- A column takes jobs away from those that are left. -/
theorem length_leftOf_nextColumn_lt (needs : String → List String) (placed : List String)
    {left : List String} (h : left ≠ []) :
    (leftOf left (nextColumn needs placed left)).length < left.length := by
  obtain ⟨id, hid⟩ := List.exists_mem_of_ne_nil _ (nextColumn_ne_nil needs placed h)
  refine List.length_filter_lt_length_iff_exists.mpr
    ⟨id, (nextColumn_sublist needs placed left).subset hid, ?_⟩
  simpa using hid

/-- A bound of as many columns as jobs are left is never met. -/
theorem levelling_columnsFrom {bound : Nat} {placed left : List String}
    (hbound : left.length ≤ bound) :
    Levelling needs placed left (columnsFrom needs bound placed left) := by
  induction bound generalizing placed left with
  | zero =>
    cases List.eq_nil_of_length_eq_zero (Nat.le_zero.mp hbound)
    exact .done placed
  | succ bound ih =>
    cases left with
    | nil => exact .done placed
    | cons first rest =>
      -- every column takes a job at least, so one less of both is enough
      have hleft : first :: rest ≠ [] := List.cons_ne_nil first rest
      have hless := length_leftOf_nextColumn_lt needs placed hleft
      exact .column hleft (ih (by omega))

/-- A run has one result at most, for every column is chosen by what is placed and left. -/
theorem Levelling.unique {placed left : List String} {columns other : List (List String)}
    (h : Levelling needs placed left columns) (hother : Levelling needs placed left other) :
    columns = other := by
  induction h generalizing other with
  | done placed =>
    cases hother with
    | done => rfl
    | column hleft => exact absurd rfl hleft
  | column hleft _ ih =>
    cases hother with
    | done => exact absurd rfl hleft
    | column _ hrest => rw [ih hrest]

/-- The function takes the run to its end. -/
theorem Workflow.levelling_levels (w : Workflow) : Levelling w.needsOf [] w.jobs.keys w.levels :=
  levelling_columnsFrom (Nat.le_of_eq (List.length_map ..))

/-- The columns of a workflow are the outcome of the one run that there is. -/
theorem Workflow.levelling_iff {w : Workflow} {columns : List (List String)} :
    Levelling w.needsOf [] w.jobs.keys columns ↔ columns = w.levels := by
  constructor
  · intro h
    exact h.unique w.levelling_levels
  · rintro rfl
    exact w.levelling_levels

/-! ## All columns -/

/-- A run places what is left, and nothing else. -/
theorem Levelling.mem_flatten_iff {placed left : List String} {columns : List (List String)}
    (h : Levelling needs placed left columns) {id : String} :
    id ∈ columns.flatten ↔ id ∈ left := by
  induction h with
  | done placed => simp
  | @column placed left columns hleft _ ih =>
    rw [List.flatten_cons, List.mem_append, ih, mem_leftOf]
    constructor
    · -- a column takes from what is left, and leaves the rest to later ones
      rintro (hcolumn | ⟨hid, _⟩)
      · exact (nextColumn_sublist needs placed left).subset hcolumn
      · exact hid
    · intro hid
      rcases Classical.em (id ∈ nextColumn needs placed left) with hcolumn | hlater
      · exact .inl hcolumn
      · exact .inr ⟨hid, hlater⟩

/-- A run places nothing twice. -/
theorem Levelling.nodup_flatten {placed left : List String} {columns : List (List String)}
    (h : Levelling needs placed left columns) (hleft : left.Nodup) : columns.flatten.Nodup := by
  induction h with
  | done placed => exact List.nodup_nil
  | @column placed left columns _ hrest ih =>
    rw [List.flatten_cons, List.nodup_append]
    refine ⟨(nextColumn_sublist needs placed left).nodup hleft,
      ih (List.filter_sublist.nodup hleft), ?_⟩
    rintro id hcolumn _ hlater rfl
    exact (mem_leftOf.mp (hrest.mem_flatten_iff.mp hlater)).2 hcolumn

/-- Every column is the next one after those before it, and something is left for it. -/
theorem Levelling.eq_nextColumn {placed left : List String} {columns : List (List String)}
    (h : Levelling needs placed left columns) {index : Nat} {column : List String}
    (hcolumn : columns[index]? = some column) :
    leftOf left (columns.take index).flatten ≠ [] ∧
      column = nextColumn needs (placed ++ (columns.take index).flatten)
        (leftOf left (columns.take index).flatten) := by
  induction h generalizing index with
  | done placed => cases hcolumn
  | @column placed left columns hleft _ ih =>
    cases index with
    | zero =>
      rw [List.take_zero, List.flatten_nil, leftOf_nil, List.append_nil]
      exact ⟨hleft, (Option.some.inj hcolumn).symm⟩
    | succ index =>
      -- what is placed before the rest is what was placed before, and the first column
      rw [List.take_succ_cons, List.flatten_cons, leftOf_append, ← List.append_assoc]
      exact ih hcolumn

/-- The index of the column in which a job stands. -/
def columnOf (columns : List (List String)) (id : String) : Option Nat :=
  columns.findIdx? fun column => column.contains id

theorem exists_column_of_columnOf {columns : List (List String)} {id : String} {index : Nat}
    (h : columnOf columns id = some index) :
    ∃ column, columns[index]? = some column ∧ id ∈ column := by
  obtain ⟨hlt, hmem, _⟩ := List.findIdx?_eq_some_iff_getElem.mp h
  exact ⟨columns[index], List.getElem?_eq_getElem hlt, by simpa using hmem⟩

theorem isSome_columnOf {columns : List (List String)} {id : String} :
    (columnOf columns id).isSome ↔ id ∈ columns.flatten := by
  simp [columnOf, List.findIdx?_isSome, List.mem_flatten]

/-- A job in one of the first columns stands in one of them. -/
theorem exists_columnOf_lt {columns : List (List String)} {id : String} {index : Nat}
    (h : id ∈ (columns.take index).flatten) : ∃ i, columnOf columns id = some i ∧ i < index := by
  obtain ⟨column, hcolumn, hid⟩ := List.mem_flatten.mp h
  have hsome : (columnOf columns id).isSome :=
    isSome_columnOf.mpr (List.mem_flatten.mpr ⟨column, List.mem_of_mem_take hcolumn, hid⟩)
  obtain ⟨i, hi⟩ := Option.isSome_iff_exists.mp hsome
  refine ⟨i, hi, Nat.lt_of_not_le fun hle => ?_⟩
  obtain ⟨_, _, hbefore⟩ := List.findIdx?_eq_some_iff_getElem.mp hi
  obtain ⟨m, hm, rfl⟩ := List.mem_take_iff_getElem.mp hcolumn
  exact hbefore m (by omega) (by simpa using hid)

/-- A job stands in a single column. -/
theorem columnOf_eq_some_iff {columns : List (List String)} (h : columns.flatten.Nodup)
    {id : String} {index : Nat} :
    columnOf columns id = some index ↔ ∃ column, columns[index]? = some column ∧ id ∈ column := by
  refine ⟨exists_column_of_columnOf, ?_⟩
  rintro ⟨column, hcolumn, hid⟩
  obtain ⟨hindex, rfl⟩ := List.getElem?_eq_some_iff.mp hcolumn
  have hapart := List.pairwise_iff_getElem.mp (List.nodup_flatten.mp h).2
  refine List.findIdx?_eq_some_iff_getElem.mpr ⟨hindex, by simpa using hid, fun i hi hmem => ?_⟩
  exact hapart i index _ hindex hi (by simpa using hmem) hid

namespace Workflow

/-- The jobs that stand in the first columns. -/
def placedBefore (w : Workflow) (index : Nat) : List String := (w.levels.take index).flatten

theorem mem_flatten_levels {w : Workflow} {id : String} :
    id ∈ w.levels.flatten ↔ id ∈ w.jobs.keys :=
  w.levelling_levels.mem_flatten_iff

/-- Each job stands in one column, and once in it. -/
theorem nodup_flatten_levels (w : Workflow) : w.levels.flatten.Nodup :=
  w.levelling_levels.nodup_flatten w.jobs.distinct

theorem perm_flatten_levels (w : Workflow) : w.levels.flatten.Perm w.jobs.keys :=
  (List.perm_ext_iff_of_nodup w.nodup_flatten_levels w.jobs.distinct).mpr fun _ =>
    mem_flatten_levels

/-- Every job stands in a column. -/
theorem exists_columnOf {w : Workflow} {id : String} (h : id ∈ w.jobs.keys) :
    ∃ index, columnOf w.levels id = some index :=
  Option.isSome_iff_exists.mp (isSome_columnOf.mpr (mem_flatten_levels.mpr h))

theorem mem_keys_of_columnOf {w : Workflow} {id : String} {index : Nat}
    (h : columnOf w.levels id = some index) : id ∈ w.jobs.keys := by
  rw [← mem_flatten_levels, ← isSome_columnOf, h]
  rfl

end Workflow

/-! ## Sound needs -/

namespace Workflow

/-- Where needs are sound, some of the jobs that are left need nothing but placed ones: otherwise
each of them needs another one that is left. -/
theorem SoundNeeds.readyJobs_ne_nil {w : Workflow} (h : w.SoundNeeds) {placed : List String}
    (hleft : leftOf w.jobs.keys placed ≠ []) :
    readyJobs w.needsOf placed (leftOf w.jobs.keys placed) ≠ [] := by
  intro hnone
  -- the jobs that are left would lead to one another without an end
  suffices hcyclic : ∃ id ∈ leftOf w.jobs.keys placed, OnCycle w.needsOf id by
    obtain ⟨id, _, hcycle⟩ := hcyclic
    exact h.acyclic ⟨id, hcycle⟩
  apply exists_onCycle_of_closed hleft
  intro id hid
  obtain ⟨need, hneed, hmissing⟩ := readyJobs_eq_nil_iff.mp hnone id hid
  exact ⟨need, mem_leftOf.mpr ⟨h.exist id need hneed, hmissing⟩, hneed⟩

/-- Where needs are sound, every column holds jobs that need nothing but jobs before it. -/
theorem SoundNeeds.exists_columnOf_lt {w : Workflow} (h : w.SoundNeeds) {id need : String}
    {index : Nat} (hcolumn : columnOf w.levels id = some index) (hneed : need ∈ w.needsOf id) :
    ∃ i, columnOf w.levels need = some i ∧ i < index := by
  obtain ⟨column, hindex, hid⟩ := exists_column_of_columnOf hcolumn
  obtain ⟨hleft, hnext⟩ := w.levelling_levels.eq_nextColumn hindex
  rw [List.nil_append, nextColumn_of_ready (h.readyJobs_ne_nil hleft)] at hnext
  rw [hnext] at hid
  exact CiWorkflow.exists_columnOf_lt ((mem_readyJobs.mp hid).2 need hneed)

/-- Jobs stand behind all they need. -/
def ColumnsOrdered (w : Workflow) : Prop :=
  ∀ id ∈ w.jobs.keys, ∃ index, columnOf w.levels id = some index ∧
    ∀ need ∈ w.needsOf id, ∃ i, columnOf w.levels need = some i ∧ i < index

/-- Where jobs stand behind all they need, they stand behind all that comes before them. -/
theorem ColumnsOrdered.lt_of_precedes {w : Workflow} (h : w.ColumnsOrdered) {id before : String}
    (hpath : Precedes (needsIn w.jobs) id before) :
    ∃ i index, columnOf w.levels before = some i ∧ columnOf w.levels id = some index ∧
      i < index := by
  induction hpath with
  | single hedge =>
    obtain ⟨index, hindex, hneeds⟩ := h id (Requires.mem_keys hedge)
    obtain ⟨i, hi, hlt⟩ := hneeds _ hedge
    exact ⟨i, index, hi, hindex, hlt⟩
  | tail _ hedge ih =>
    -- both ends of the new edge have a column, and the middle one has only one
    obtain ⟨m, index, hm, hindex, hlt⟩ := ih
    obtain ⟨m', hm', hneeds⟩ := h _ (Requires.mem_keys hedge)
    obtain ⟨i, hi, hlt'⟩ := hneeds _ hedge
    rw [hm] at hm'
    cases hm'
    exact ⟨i, index, hi, hindex, hlt'.trans hlt⟩

/-- Jobs stand behind all they need exactly where needs are sound. -/
theorem columnsOrdered_iff {w : Workflow} : w.ColumnsOrdered ↔ w.SoundNeeds := by
  constructor
  · intro h
    refine ⟨fun id need hrequires => ?_, ?_⟩
    · obtain ⟨_, _, hneeds⟩ := h id hrequires.mem_keys
      obtain ⟨i, hi, _⟩ := hneeds need hrequires
      exact mem_keys_of_columnOf hi
    · -- along a cycle a job would stand before itself
      rintro ⟨id, hcycle⟩
      obtain ⟨i, index, hi, hindex, hlt⟩ := h.lt_of_precedes hcycle
      rw [hi] at hindex
      cases hindex
      exact Nat.lt_irrefl i hlt
  · intro h id hid
    obtain ⟨index, hindex⟩ := exists_columnOf hid
    exact ⟨index, hindex, fun need hneed => h.exists_columnOf_lt hindex hneed⟩

/-! ## Checks and columns -/

/-- Needs are sound exactly where the checks tell of no cycle and of no job that is missing. -/
theorem soundNeeds_iff_lintWith {options : LintOptions} {w : Workflow} :
    w.SoundNeeds ↔ ∀ d ∈ w.lintWith options, ¬d.ReportsCycle ∧ ¬d.ReportsMissingJob := by
  constructor
  · intro h d hd
    refine ⟨forall_not_reportsCycle_iff.mpr h.acyclic d hd, ?_⟩
    rintro ⟨id, need, rfl⟩
    obtain ⟨hrequires, hmissing⟩ := missingJobError_mem_lintWith.mp hd
    exact hmissing (h.exist id need hrequires)
  · intro h
    refine ⟨fun id need hrequires => ?_, ?_⟩
    · -- a need without a job would be told
      by_contra hmissing
      have hd : Lint.missingJobError id need ∈ w.lintWith options :=
        missingJobError_mem_lintWith.mpr ⟨hrequires, hmissing⟩
      exact (h _ hd).2 ⟨id, need, rfl⟩
    · exact forall_not_reportsCycle_iff.mp fun d hd => (h d hd).1

/-- **The checks and the columns agree on the needs of jobs.** The checks of a workflow tell neither
of a circular dependency nor of a job that does not exist exactly where every job stands in a later
column than each of the ids that it needs. -/
theorem lint_columns_agree (w : Workflow) :
    (∀ d ∈ w.lint, ¬d.ReportsCycle ∧ ¬d.ReportsMissingJob) ↔
      ∀ id ∈ w.jobs.keys, ∃ index, columnOf w.levels id = some index ∧
        ∀ need ∈ w.needsOf id, ∃ i, columnOf w.levels need = some i ∧ i < index := by
  unfold lint
  rw [← soundNeeds_iff_lintWith, ← columnsOrdered_iff, ColumnsOrdered]

/-- A job that needs itself is placed by force, and what needs it comes behind it. -/
example :
    ({ jobs := .ofList [("test", { needs := some (.one "build") }), ("build", {}),
        ("loop", { needs := some (.one "loop") }), ("end", { needs := some (.one "loop") })] } :
      Workflow).levels = [["build"], ["test"], ["loop"], ["end"]] := by
  decide +kernel

end Workflow

end CiWorkflow
