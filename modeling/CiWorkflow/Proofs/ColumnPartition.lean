import CiWorkflow.Proofs.Levels
/-!
# Columns as a Partition of the Jobs

Whatever the needs of jobs are, their columns hold each job once. A column is never smaller than it
could be: it holds all jobs that need nothing but jobs before it, or there are none of these. Only
then a job is placed by force, and it is the first that is left. So what stands beside another job
waits for nothing that comes later.

This complements `Levels`, where a column is what `nextColumn` makes of the columns before it, by
the two ways in which this choice goes.
-/

namespace CiWorkflow.Workflow

variable {w : Workflow} {index : Nat} {column : List String} {id : String}

/-! ## The choice of a column -/

/-- All jobs are taken that need nothing but jobs before the column. -/
def TakesReady (w : Workflow) (index : Nat) (column : List String) : Prop :=
  ∀ id, id ∈ column ↔ (id ∈ w.jobs.keys ∧ id ∉ w.placedBefore index) ∧
    ∀ need ∈ w.needsOf id, need ∈ w.placedBefore index

/-- Every job that is left waits for something, and the first of them is taken alone. -/
def TakesByForce (w : Workflow) (index : Nat) (column : List String) : Prop :=
  (∀ id ∈ w.jobs.keys, id ∉ w.placedBefore index →
    ∃ need ∈ w.needsOf id, need ∉ w.placedBefore index) ∧
  ∃ first, w.jobs.keys.find? (fun id => id ∉ w.placedBefore index) = some first ∧ column = [first]

/-- The job placed by force is the first in the workflow that no column has yet. -/
theorem take_one_leftOf {ids placed : List String} (h : leftOf ids placed ≠ []) :
    ∃ first, ids.find? (fun id => id ∉ placed) = some first ∧
      (leftOf ids placed).take 1 = [first] := by
  obtain ⟨first, rest, hfirst⟩ := List.exists_cons_of_ne_nil h
  refine ⟨first, ?_, by rw [hfirst]; rfl⟩
  -- what is left keeps its order, so that its first is the first of all that is not placed
  have hhead : (leftOf ids placed).head? = some first := by
    rw [hfirst, List.head?_cons]
  rw [leftOf, List.head?_filter] at hhead
  simpa using hhead

/-- Every column is of one of the two kinds. -/
theorem takesReady_or_takesByForce (h : w.levels[index]? = some column) :
    w.TakesReady index column ∨ w.TakesByForce index column := by
  obtain ⟨hleft, hnext⟩ := w.levelling_levels.eq_nextColumn h
  rw [List.nil_append] at hnext
  -- the algorithm turns to force exactly where no job is ready
  rcases Classical.em (readyJobs w.needsOf (w.placedBefore index)
    (leftOf w.jobs.keys (w.placedBefore index)) = []) with hnone | hsome
  · right
    constructor
    · intro id hid hnew
      exact readyJobs_eq_nil_iff.mp hnone id (mem_leftOf.mpr ⟨hid, hnew⟩)
    · obtain ⟨first, hfind, htake⟩ := take_one_leftOf hleft
      refine ⟨first, hfind, ?_⟩
      rw [hnext, ← htake]
      exact nextColumn_of_not_ready hnone
  · left
    intro id
    rw [← mem_leftOf, ← mem_readyJobs, ← nextColumn_of_ready hsome, hnext]
    rfl

/-- A job that needs something that is not placed before it stands alone. -/
theorem column_eq_singleton (h : w.levels[index]? = some column) (hid : id ∈ column) {need : String}
    (hneed : need ∈ w.needsOf id) (hlate : need ∉ w.placedBefore index) : column = [id] := by
  rcases takesReady_or_takesByForce h with hready | ⟨_, first, _, hforced⟩
  · exact absurd (((hready id).mp hid).2 need hneed) hlate
  · rw [hforced, List.mem_singleton] at hid
    rw [hforced, hid]

/-! ## The partition -/

theorem mem_keys_of_mem_placedBefore (h : id ∈ w.placedBefore index) : id ∈ w.jobs.keys := by
  obtain ⟨column, hcolumn, hid⟩ := List.mem_flatten.mp h
  exact mem_flatten_levels.mp (List.mem_flatten.mpr ⟨column, List.mem_of_mem_take hcolumn, hid⟩)

/-- What stands in a column is not placed before a column that is not later. -/
theorem not_mem_placedBefore (h : w.levels[index]? = some column) (hid : id ∈ column) {k : Nat}
    (hk : k ≤ index) : id ∉ w.placedBefore k := by
  intro hplaced
  obtain ⟨i, hi, hlt⟩ := CiWorkflow.exists_columnOf_lt hplaced
  have hown := (columnOf_eq_some_iff w.nodup_flatten_levels).mpr ⟨column, h, hid⟩
  rw [hi] at hown
  have := Option.some.inj hown
  omega

/-- A column has a job, and its jobs stand in the order of the workflow. -/
theorem column_sublist_keys (h : column ∈ w.levels) :
    column ≠ [] ∧ column.Sublist w.jobs.keys := by
  obtain ⟨index, hindex⟩ := List.getElem?_of_mem h
  obtain ⟨hleft, hnext⟩ := w.levelling_levels.eq_nextColumn hindex
  rw [hnext]
  exact ⟨nextColumn_ne_nil _ _ hleft, (nextColumn_sublist ..).trans List.filter_sublist⟩

theorem levels_eq_nil_iff : w.levels = [] ↔ w.jobs.keys = [] := by
  constructor
  · intro hlevels
    rw [← List.perm_nil, ← List.flatten_nil, ← hlevels]
    exact w.perm_flatten_levels.symm
  · intro hkeys
    rw [List.eq_nil_iff_forall_not_mem]
    intro column hcolumn
    obtain ⟨hne, hsub⟩ := column_sublist_keys hcolumn
    rw [hkeys, List.sublist_nil] at hsub
    exact hne hsub

/-- **The columns are a complete ordered partition of the jobs, and jobs are placed by force only
where nothing else is left to do.** Columns are made until no job is left, with one result. Each of
them has jobs, in their order, and every job is in one of them once. A column takes all jobs that
need nothing but jobs before it; if there are none, it takes the first job that is left alone. So a
job that needs itself or a missing job stands alone, and so does every job that needs another one
which does not stand in an earlier column. -/
theorem levels_partition (w : Workflow) :
    (∀ columns, Levelling w.needsOf [] w.jobs.keys columns ↔ columns = w.levels) ∧
    w.levels.flatten.Perm w.jobs.keys ∧
    (∀ column ∈ w.levels, column ≠ [] ∧ column.Sublist w.jobs.keys) ∧
    (∀ (index : Nat) column, w.levels[index]? = some column →
      w.TakesReady index column ∨ w.TakesByForce index column) ∧
    (∀ column ∈ w.levels, ∀ id ∈ column, ∀ need ∈ w.needsOf id,
      need = id ∨ need ∉ w.jobs.keys → column = [id]) ∧
    ∀ (i k : Nat) (before column : List String), w.levels[i]? = some before →
      w.levels[k]? = some column → ∀ need ∈ before, ∀ id ∈ column, need ∈ w.needsOf id →
        ¬i < k → column = [id] := by
  refine ⟨fun _ => levelling_iff, w.perm_flatten_levels, fun _ => column_sublist_keys,
    fun _ _ => takesReady_or_takesByForce, fun column hcolumn id hid need hneed hbroken => ?_,
    fun i k before column hbefore hcolumn need hsource id hid hneed hlate => ?_⟩
  · -- neither the job itself nor a missing one is placed before the column
    obtain ⟨index, hindex⟩ := List.getElem?_of_mem hcolumn
    apply column_eq_singleton hindex hid hneed
    rcases hbroken with rfl | hmissing
    · exact not_mem_placedBefore hindex hid (Nat.le_refl index)
    · exact fun hplaced => hmissing (mem_keys_of_mem_placedBefore hplaced)
  · -- nor is a job of a column that is not earlier
    apply column_eq_singleton hcolumn hid hneed
    exact not_mem_placedBefore hbefore hsource (Nat.le_of_not_lt hlate)

/-- Of two jobs that need each other the first one is placed by force, and then the other one is
ready, along with what needs the first. -/
example :
    ({ jobs := .ofList [("b", { needs := some (.one "a") }), ("a", { needs := some (.one "b") }),
        ("c", { needs := some (.one "b") }), ("d", { needs := some (.many ["ghost", "a"]) })] } :
      Workflow).levels = [["b"], ["a", "c"], ["d"]] := by
  decide +kernel

end CiWorkflow.Workflow
