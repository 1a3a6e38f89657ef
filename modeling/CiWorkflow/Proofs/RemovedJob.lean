import CiWorkflow.Proofs.ColumnPartition
import CiWorkflow.Proofs.EditRuns
/-!
# Removed Jobs

Where no other job needs a job, no column waits for it. Still the columns are not made alike without
it: if nothing else is ready, the job gets a column that is missing afterwards, be it that it is
ready or that it is the first that is left. In the meantime nothing has changed for the others, so
the run without the job just stands still until they come to the same column again.

This complements `AppendedJob`, where two runs go side by side and one makes a last column more.

## Layers

- **Columns without a job**: what is left of the column of the job, and of the order of the others.
- **One column** is chosen alike for the other jobs, unless there are none of them in it.
- **Runs**: the columns without a job are those that are made without it.
-/

namespace CiWorkflow

/-! ## Columns without a job -/

/-- The ids of a list except one. -/
def others (id : String) (ids : List String) : List String := ids.filter (· != id)

/-- Columns from which a job is taken out, and with it the column that held nothing else. -/
def columnsWithout (id : String) (columns : List (List String)) : List (List String) :=
  (columns.map (others id)).filter fun column => !column.isEmpty

/-- The columns can be cut so that one id stands before the cut, and another one behind it. -/
def EarlierColumn (columns : List (List String)) (a b : String) : Prop :=
  ∃ first later, columns = first ++ later ∧ a ∈ first.flatten ∧ b ∈ later.flatten

variable {id : String} {columns : List (List String)}

theorem mem_others {ids : List String} {other : String} :
    other ∈ others id ids ↔ other ∈ ids ∧ other ≠ id := by
  simp [others]

theorem others_append (id : String) (ids more : List String) :
    others id (ids ++ more) = others id ids ++ others id more :=
  List.filter_append ..

/-- A job may be taken out before or after the others are placed. -/
theorem leftOf_others (id : String) (left column : List String) :
    leftOf (others id left) (others id column) = others id (leftOf left column) := by
  unfold leftOf others
  rw [List.filter_filter, List.filter_filter]
  apply List.filter_congr
  intro other _
  rcases Classical.em (other = id) with rfl | hne
  · simp
  · simp [hne, Bool.and_comm]

theorem columnsWithout_append (id : String) (first later : List (List String)) :
    columnsWithout id (first ++ later) = columnsWithout id first ++ columnsWithout id later := by
  simp only [columnsWithout, List.map_append, List.filter_append]

theorem columnsWithout_cons (id : String) (column : List String) (rest : List (List String)) :
    columnsWithout id (column :: rest) =
      if others id column = [] then columnsWithout id rest
      else others id column :: columnsWithout id rest := by
  cases hcolumn : others id column <;> simp [columnsWithout, hcolumn]

theorem columnsWithout_eq_self (hne : ∀ column ∈ columns, column ≠ [])
    (hid : id ∉ columns.flatten) : columnsWithout id columns = columns := by
  have hothers : ∀ column ∈ columns, others id column = column := fun column hcolumn =>
    KeyedList.filter_bne_eq_self fun hmem => hid (List.mem_flatten.mpr ⟨column, hcolumn, hmem⟩)
  rw [columnsWithout, List.map_congr_left hothers, List.map_id', List.filter_eq_self]
  intro column hcolumn
  simpa using hne column hcolumn

/-- Read one after the other, the columns lose the job and nothing else. -/
theorem flatten_columnsWithout (id : String) (columns : List (List String)) :
    (columnsWithout id columns).flatten = others id columns.flatten := by
  rw [columnsWithout, List.flatten_filter_not_isEmpty, others, List.filter_flatten]
  rfl

/-- A job that stands once is taken out of one column, and this is dropped if nothing else is in
it. -/
theorem exists_columnsWithout_eq (hnodup : columns.flatten.Nodup)
    (hne : ∀ column ∈ columns, column ≠ []) (hid : id ∈ columns.flatten) :
    ∃ before column after, columns = before ++ column :: after ∧ id ∈ column ∧
      columnsWithout id columns =
        before ++ if column.erase id = [] then after else column.erase id :: after := by
  obtain ⟨column, hcolumn, hmem⟩ := List.mem_flatten.mp hid
  obtain ⟨before, after, rfl⟩ := List.append_of_mem hcolumn
  refine ⟨before, column, after, rfl, hmem, ?_⟩
  rw [List.flatten_append, List.flatten_cons, List.nodup_append, List.nodup_append] at hnodup
  obtain ⟨_, ⟨hown, _, hafter⟩, hbefore⟩ := hnodup
  -- the job stands in no other column, so that these are left as they are
  have hfirst : id ∉ before.flatten := fun h =>
    hbefore id h id (List.mem_append_left _ hmem) rfl
  have hlater : id ∉ after.flatten := fun h => hafter id hmem id h rfl
  have herase : others id column = column.erase id := (hown.erase_eq_filter id).symm
  rw [columnsWithout_append, columnsWithout_cons, herase,
    columnsWithout_eq_self (fun c hc => hne c (List.mem_append_left _ hc)) hfirst,
    columnsWithout_eq_self
      (fun c hc => hne c (List.mem_append_right _ (List.mem_cons_of_mem _ hc))) hlater]

/-- The other jobs keep their order by columns, though some columns may be gone. -/
theorem earlierColumn_columnsWithout {a b : String} (ha : a ≠ id) (hb : b ≠ id) :
    EarlierColumn (columnsWithout id columns) a b ↔ EarlierColumn columns a b := by
  have hmem : ∀ other ≠ id, ∀ part : List (List String),
      other ∈ (columnsWithout id part).flatten ↔ other ∈ part.flatten := by
    intro other hother part
    rw [flatten_columnsWithout, mem_others]
    exact and_iff_left hother
  constructor
  · -- a cut of the columns without the job is what is left of a cut of all columns
    rintro ⟨first', later', hcut, hfirst, hlater⟩
    obtain ⟨kept, kept', hkept, rfl, rfl⟩ := List.filter_eq_append_iff.mp hcut
    obtain ⟨first, later, rfl, rfl, rfl⟩ := List.map_eq_append_iff.mp hkept
    exact ⟨first, later, rfl, (hmem a ha first).mp hfirst, (hmem b hb later).mp hlater⟩
  · rintro ⟨first, later, rfl, hfirst, hlater⟩
    exact ⟨columnsWithout id first, columnsWithout id later, columnsWithout_append ..,
      (hmem a ha first).mpr hfirst, (hmem b hb later).mpr hlater⟩

/-! ## One column -/

variable {needs needs' : String → List String} {placed left : List String}

/-- Among the other jobs the same ones are ready, since none of them waits for the job. -/
theorem readyJobs_others (hsame : ∀ other ∈ left, other ≠ id → needs' other = needs other)
    (hfree : ∀ other ∈ left, other ≠ id → id ∉ needs other) :
    readyJobs needs' (others id placed) (others id left) =
      others id (readyJobs needs placed left) := by
  show List.filter _ (List.filter _ left) = List.filter _ (List.filter _ left)
  rw [List.filter_filter, List.filter_filter]
  apply List.filter_congr
  intro other hother
  rcases Classical.em (other = id) with rfl | hne
  · simp
  · -- the removed id is no need of what is left, so leaving it out of the placed ids loses nothing
    have hneeds : ∀ need ∈ needs other, need ∈ others id placed ↔ need ∈ placed := by
      intro need hneed
      rw [mem_others]
      exact and_iff_left fun heq => hfree other hother hne (heq ▸ hneed)
    have hall : (needs' other).all (others id placed).contains =
        (needs other).all placed.contains := by
      rw [hsame other hother hne, Bool.eq_iff_iff]
      simpa using forall₂_congr hneeds
    rw [hall, Bool.and_comm]

/-- A column that holds other jobs holds the same ones without the job. -/
theorem nextColumn_others (hsame : ∀ other ∈ left, other ≠ id → needs' other = needs other)
    (hfree : ∀ other ∈ left, other ≠ id → id ∉ needs other)
    (hcolumn : others id (nextColumn needs placed left) ≠ []) :
    nextColumn needs' (others id placed) (others id left) =
      others id (nextColumn needs placed left) := by
  have hready : readyJobs needs' (others id placed) (others id left) =
      others id (readyJobs needs placed left) := readyJobs_others hsame hfree
  rcases Classical.em (readyJobs needs placed left = []) with hnone | hsome
  · -- the job that is placed by force is another one, and still the first that is left
    have hnone' : readyJobs needs' (others id placed) (others id left) = [] := by
      rw [hready, hnone]
      rfl
    rw [nextColumn_of_not_ready hnone] at hcolumn ⊢
    rw [nextColumn_of_not_ready hnone']
    cases left with
    | nil => rfl
    | cons first rest =>
      have hne : first ≠ id := by
        rintro rfl
        exact hcolumn (by simp [others])
      simp [others, hne]
  · rw [nextColumn_of_ready hsome] at hcolumn ⊢
    rw [← hready] at hcolumn ⊢
    exact nextColumn_of_ready hcolumn

/-! ## Runs -/

/-- The run without a job makes the same columns, except that it makes none where the job would
stand alone: there it is already as far as the other run after this column. -/
theorem Levelling.without_job (h : Levelling needs placed left columns)
    (hsame : ∀ other ∈ left, other ≠ id → needs' other = needs other)
    (hfree : ∀ other ∈ left, other ≠ id → id ∉ needs other) :
    Levelling needs' (others id placed) (others id left) (columnsWithout id columns) := by
  induction h with
  | done placed => exact .done _
  | @column placed left columns hleft _ ih =>
    have hrest := ih (fun other hother => hsame other (mem_leftOf.mp hother).1)
      (fun other hother => hfree other (mem_leftOf.mp hother).1)
    rw [others_append, ← leftOf_others] at hrest
    rw [columnsWithout_cons]
    split
    · -- the job has the column for itself: the other run stands still, and no column is left
      next halone =>
      rwa [halone, List.append_nil, leftOf_nil] at hrest
    · next hcolumn =>
      have hsub : (others id (nextColumn needs placed left)).Sublist
          (others id left) :=
        (nextColumn_sublist needs placed left).filter _
      have hleft' : others id left ≠ [] := by
        intro hnil
        rw [hnil] at hsub
        exact hcolumn (List.sublist_nil.mp hsub)
      rw [← nextColumn_others hsame hfree hcolumn] at hrest ⊢
      exact .column hleft' hrest

namespace Workflow

/-- The run without the job is the run of the workflow without the job. -/
theorem levels_removeJob_eq {w : Workflow} (hid : id ∈ w.jobs.keys)
    (hfree : ∀ other ∈ w.jobs.keys, other ≠ id → id ∉ w.needsOf other) :
    (w.removeJob id).levels = columnsWithout id w.levels := by
  have hsame : ∀ other ∈ w.jobs.keys, other ≠ id →
      (w.removeJob id).needsOf other = w.needsOf other := by
    intro other hother hne
    rw [needsOf_removeJob hid, if_neg (Ne.symm hne)]
    exact KeyedList.filter_bne_eq_self (hfree other hother hne)
  have hrun := w.levelling_levels.without_job hsame hfree
  -- the run without the job is the one that begins with the jobs that are left
  apply Eq.symm
  apply levelling_iff.mp
  rw [keys_removeJob]
  exact hrun

/-- **Removing a job that no other job needs leaves the other jobs where they are.** Whatever cycles
or missing jobs there are, the job is taken out of its column, the column is dropped if it held
nothing else, and all other columns stay. So the other jobs keep their order, in their columns and
from column to column. -/
theorem levels_removeJob (w : Workflow) (id : String) (hid : id ∈ w.jobs.keys)
    (hfree : ∀ other ∈ w.jobs.keys, other ≠ id → id ∉ w.needsOf other) :
    (∃ before column after, w.levels = before ++ column :: after ∧ id ∈ column ∧
      (w.removeJob id).levels =
        before ++ if column.erase id = [] then after else column.erase id :: after) ∧
    (w.removeJob id).levels.flatten = w.levels.flatten.filter (· != id) ∧
    ∀ a b, a ≠ id → b ≠ id →
      (EarlierColumn (w.removeJob id).levels a b ↔ EarlierColumn w.levels a b) := by
  rw [levels_removeJob_eq hid hfree]
  refine ⟨?_, flatten_columnsWithout .., fun a b ha hb => earlierColumn_columnsWithout ha hb⟩
  apply exists_columnsWithout_eq w.nodup_flatten_levels
  · exact fun column hcolumn => (column_sublist_keys hcolumn).1
  · exact mem_flatten_levels.mpr hid

/-- Two jobs that need each other, and in front of them one that waits for itself, for one of them
and for a missing job. -/
def stalled : Workflow :=
  { jobs := .ofList [("loop", { needs := some (.many ["loop", "b", "ghost"]) }),
      ("b", { needs := some (.one "a") }), ("a", { needs := some (.one "b") }), ("free", {})] }

/-- The job in front is the first to be placed by force, and without it the next one is. -/
theorem levels_removeJob_stalled :
    ("loop" ∈ stalled.jobs.keys ∧
      ∀ other ∈ stalled.jobs.keys, other ≠ "loop" → "loop" ∉ stalled.needsOf other) ∧
    stalled.levels = [["free"], ["loop"], ["b"], ["a"]] ∧
    (stalled.removeJob "loop").levels = [["free"], ["b"], ["a"]] ∧
    (∃ before column after, stalled.levels = before ++ column :: after ∧ "loop" ∈ column ∧
      (stalled.removeJob "loop").levels =
        before ++ if column.erase "loop" = [] then after else column.erase "loop" :: after) ∧
    (stalled.removeJob "loop").levels.flatten = stalled.levels.flatten.filter (· != "loop") ∧
    ∀ a b, a ≠ "loop" → b ≠ "loop" →
      (EarlierColumn (stalled.removeJob "loop").levels a b ↔ EarlierColumn stalled.levels a b) := by
  have hid : "loop" ∈ stalled.jobs.keys := by decide +kernel
  have hfree : ∀ other ∈ stalled.jobs.keys, other ≠ "loop" → "loop" ∉ stalled.needsOf other := by
    decide +kernel
  exact ⟨⟨hid, hfree⟩, by decide +kernel, by decide +kernel,
    levels_removeJob stalled "loop" hid hfree⟩

end Workflow

end CiWorkflow
