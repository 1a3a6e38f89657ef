import CiWorkflow.Proofs.ColumnPartition
import CiWorkflow.Proofs.EditRuns
import CiWorkflow.Proofs.LayoutNodes
/-!
# Appended Jobs

The last node of a layout stands for a further job that needs all jobs of the last column. Adding
this job may name a job that others were missing, or close a cycle. Still no column changes: as long
as a job of the last column is left, the new job waits, and nobody waits for it any less than
before, since it is not placed either way. So the two runs that make the columns choose alike until
only the new job is left.

This complements `ColumnPartition` on one run with a step lemma and a run lemma on two of them.

## Layers

- **One column** is chosen alike with and without a job that waits.
- **Runs**: the columns with a job that waits for the last one.
- **Ids**: no id of a trigger is the id of a new job.
- **Nodes** of triggers and of jobs that were there.
-/

namespace CiWorkflow

/-! ## One column -/

variable {needs needs' : String → List String} {placed left : List String} {id : String}

/-- A job that waits is not ready, and the others are ready as before. -/
theorem readyJobs_append_waiting (hsame : ∀ other ∈ left, needs' other = needs other)
    (hwait : ∃ need ∈ needs' id, need ∉ placed) :
    readyJobs needs' placed (left ++ [id]) = readyJobs needs placed left := by
  have hnew : readyJobs needs' placed [id] = [] := by
    rw [readyJobs_eq_nil_iff]
    intro other hother
    rwa [List.mem_singleton.mp hother]
  have hold : readyJobs needs' placed left = readyJobs needs placed left := by
    apply List.filter_congr
    intro other hother
    rw [hsame other hother]
  calc readyJobs needs' placed (left ++ [id])
      = readyJobs needs' placed left ++ readyJobs needs' placed [id] := List.filter_append ..
    _ = readyJobs needs placed left := by rw [hnew, hold, List.append_nil]

/-- One step of both runs: the column is the same, ready or by force. -/
theorem nextColumn_append_waiting (hleft : left ≠ [])
    (hsame : ∀ other ∈ left, needs' other = needs other)
    (hwait : ∃ need ∈ needs' id, need ∉ placed) :
    nextColumn needs' placed (left ++ [id]) = nextColumn needs placed left := by
  have hready := readyJobs_append_waiting hsame hwait
  rcases Classical.em (readyJobs needs placed left = []) with hnone | hsome
  · -- by force the first of the jobs is taken, and the new one is behind it
    rw [nextColumn_of_not_ready hnone, nextColumn_of_not_ready (hready.trans hnone)]
    exact List.take_append_of_le_length (List.length_pos_iff.mpr hleft)
  · rw [nextColumn_of_ready hsome, nextColumn_of_ready (hready ▸ hsome), hready]

/-- A job that is left alone makes a column, ready or not. -/
theorem nextColumn_singleton (needs : String → List String) (placed : List String) (id : String) :
    nextColumn needs placed [id] = [id] := by
  rcases List.sublist_singleton.mp (nextColumn_sublist needs placed [id]) with hnone | hone
  · exact absurd hnone (nextColumn_ne_nil needs placed (List.cons_ne_nil id []))
  · exact hone

theorem leftOf_append_singleton {ids : List String} (h : id ∉ placed) :
    leftOf (ids ++ [id]) placed = leftOf ids placed ++ [id] := by
  simp [leftOf, h]

/-! ## Runs -/

theorem levelling_singleton (needs : String → List String) (placed : List String) (id : String) :
    Levelling needs placed [id] [[id]] := by
  have hrest : Levelling needs (placed ++ nextColumn needs placed [id])
      (leftOf [id] (nextColumn needs placed [id])) [] := by
    have hnothing : leftOf [id] (nextColumn needs placed [id]) = [] := by
      simp [nextColumn_singleton, leftOf]
    rw [hnothing]
    exact .done _
  have hcolumn := Levelling.column (List.cons_ne_nil id []) hrest
  rwa [nextColumn_singleton] at hcolumn

/-- A job that needs one of the last column gets a column behind it, and the others stay. -/
theorem Levelling.append_waiting {columns : List (List String)}
    (h : Levelling needs placed left columns) (hid : id ∉ left)
    (hsame : ∀ other ∈ left, needs' other = needs other) (hapart : ∀ other ∈ left, other ∉ placed)
    (hlast : ∀ column, columns.getLast? = some column → ∃ need ∈ column, need ∈ needs' id) :
    Levelling needs' placed (left ++ [id]) (columns ++ [[id]]) := by
  induction h with
  | done placed => exact levelling_singleton needs' placed id
  | @column placed left columns hleft hrest ih =>
    have hsub := nextColumn_sublist needs placed left
    -- a job of the last column is left, so that the new job waits for it
    have hwait : ∃ need ∈ needs' id, need ∉ placed := by
      have hsome := List.getLast?_eq_some_getLast (List.cons_ne_nil (nextColumn needs placed left)
        columns)
      obtain ⟨need, hmem, hneed⟩ := hlast _ hsome
      refine ⟨need, hneed, hapart need ?_⟩
      rw [← (Levelling.column hleft hrest).mem_flatten_iff, List.mem_flatten]
      exact ⟨_, List.mem_of_getLast? hsome, hmem⟩
    have hcolumn := nextColumn_append_waiting hleft hsame hwait
    have hnew : id ∉ nextColumn needs placed left := fun hmem => hid (hsub.subset hmem)
    -- the rest is made with one column more before it, and still without the new job
    have hrest' := ih (fun hmem => hid (mem_leftOf.mp hmem).1)
      (fun other hother => hsame other (mem_leftOf.mp hother).1)
      (fun other hother hplaced => by
        obtain ⟨hold, hlater⟩ := mem_leftOf.mp hother
        rcases List.mem_append.mp hplaced with hbefore | hnow
        · exact hapart other hold hbefore
        · exact hlater hnow)
      (fun column hcolumn => hlast column (by simp [List.getLast?_cons, hcolumn]))
    rw [← leftOf_append_singleton hnew, ← hcolumn] at hrest'
    rw [List.cons_append, ← hcolumn]
    exact .column (List.append_ne_nil_of_right_ne_nil _ (List.cons_ne_nil id [])) hrest'

/-! ## Ids -/

/-- A name that is no variant of an id does not keep colons from being put behind the id. -/
theorem ColonsPushed.append_other {taken : List String} {name result other : String}
    (h : ColonsPushed taken name result) (hother : ∀ count, withColons name count ≠ other) :
    ColonsPushed (taken ++ [other]) name result := by
  induction h with
  | @free name hfree =>
    have hname := hother 0
    rw [withColons_zero] at hname
    exact .free (by simp [hfree, hname])
  | @push name result htaken _ ih =>
    refine .push (List.mem_append_left _ htaken) (ih fun count => ?_)
    rw [withColons_push]
    exact hother (count + 1)

namespace Workflow

/-- A new job takes no id away from a trigger, for it begins with another letter. -/
theorem triggerId_addJob (w : Workflow) (needs : List String) (index : Nat) :
    (w.addJob needs).1.triggerId index = w.triggerId index := by
  have hpushed : ColonsPushed (w.addJob needs).1.jobs.keys ("trigger:" ++ toString index)
      (w.triggerId index) := by
    rw [keys_addJob]
    apply (w.colonsPushed_iff.mpr rfl).append_other
    intro count heq
    obtain ⟨n, hname⟩ := exists_freshJobId_eq w.jobs.keys
    have hfirst := congrArg (fun name => name.toList.head?) (heq.trans hname)
    simp [withColons] at hfirst
  exact ((w.addJob needs).1.colonsPushed_iff.mp hpushed).symm

/-! ## Columns and nodes -/

/-- The run lemma for a new job that waits for some job of the last column. -/
theorem levels_addJob {w : Workflow} {needs : List String}
    (h : ∀ column, w.levels.getLast? = some column → ∃ need ∈ column, need ∈ needs) :
    (w.addJob needs).1.levels = w.levels ++ [[freshJobId w.jobs.keys]] := by
  have hfresh := freshJobId_not_mem w.jobs.keys
  -- levels are determined by the run, so it is enough that the longer list is one
  have hrun : Levelling (w.addJob needs).1.needsOf [] (w.addJob needs).1.jobs.keys
      (w.levels ++ [[freshJobId w.jobs.keys]]) := by
    rw [keys_addJob]
    apply w.levelling_levels.append_waiting hfresh
    · intro other hother
      rw [needsOf_addJob, if_neg]
      rintro rfl
      exact hfresh hother
    · exact fun _ _ => List.not_mem_nil
    · intro column hcolumn
      rw [needsOf_addJob, if_pos rfl]
      exact h column hcolumn
  exact (levelling_iff.mp hrun).symm

variable {α : Type} [Coordinate α] {w : Workflow} {g : Geometry α} {needs : List String}

theorem columnNodes_congr {v : Workflow} {column : Nat} {ids : List String}
    (h : ∀ id ∈ ids, v.jobs.get? id = w.jobs.get? id) :
    v.columnNodes g column ids = w.columnNodes g column ids := by
  unfold columnNodes
  congr 1
  rw [List.mapIdx_eq_mapIdx_iff]
  intro row hrow
  rw [h _ (List.getElem_mem hrow)]

/-- Nodes of earlier columns keep data and place, and the node of the new job comes last. -/
theorem jobNodes_addJob
    (h : (w.addJob needs).1.levels = w.levels ++ [[freshJobId w.jobs.keys]]) :
    (w.addJob needs).1.jobNodes g = w.jobNodes g ++
      (w.addJob needs).1.columnNodes g w.levels.length [freshJobId w.jobs.keys] := by
  have hold : w.levels.mapIdx ((w.addJob needs).1.columnNodes g) =
      w.levels.mapIdx (w.columnNodes g) := by
    rw [List.mapIdx_eq_mapIdx_iff]
    intro column hcolumn
    apply columnNodes_congr
    intro id hid
    rw [get?_addJob, if_neg]
    rintro rfl
    apply freshJobId_not_mem w.jobs.keys
    exact mem_flatten_levels.mp (List.mem_flatten.mpr ⟨_, List.getElem_mem hcolumn, hid⟩)
  rw [jobNodes, h, List.mapIdx_append, hold, List.flatten_append]
  simp [jobNodes]

/-- Triggers are centered on the first column, which stays as it is, or gets its first job where one
row was assumed. -/
theorem triggerNodes_addJob
    (h : (w.addJob needs).1.levels = w.levels ++ [[freshJobId w.jobs.keys]]) :
    (w.addJob needs).1.triggerNodes g = w.triggerNodes g := by
  -- without jobs the triggers stand where they stand beside a single one
  have hcenter : g.centerY ((w.addJob needs).1.levels.headD []).length =
      g.centerY (w.levels.headD []).length := by
    rw [h]
    cases w.levels with
    | nil => rfl
    | cons column rest => rfl
  have hids : (w.addJob needs).1.triggerId = w.triggerId := funext (w.triggerId_addJob needs)
  unfold triggerNodes
  rw [hcenter, hids]
  rfl

/-- **What the place of a further job promises is kept.** It stands for a job that needs the jobs of
the last column. Where this job is added, it gets a column of its own behind the others, whatever
needs are missing or in a cycle before or after, and every node of a job or a trigger is as it was,
at the same position. -/
theorem levels_addJob_lastColumn (w : Workflow) (g : Geometry α) :
    ∃ last, ((w.layout g).nodes.filter (·.data.isAddJob)).map FlowNode.data = [.addJob last] ∧
      (w.addJob last).1.levels = w.levels ++ [[(w.addJob last).2]] ∧
      ∀ n ∈ (w.layout g).nodes, n.data.isJob = true ∨ n.data.isTrigger = true →
        ((w.addJob last).1.layout g).node? n.id = some n := by
  have hlevels : (w.addJob (w.levels.getLastD [])).1.levels =
      w.levels ++ [[freshJobId w.jobs.keys]] := by
    apply levels_addJob
    intro column hcolumn
    have hne : column ≠ [] := (column_sublist_keys (List.mem_of_getLast? hcolumn)).1
    obtain ⟨need, hneed⟩ := List.exists_mem_of_ne_nil column hne
    refine ⟨need, hneed, ?_⟩
    rwa [List.getLastD_eq_getLast?, hcolumn]
  refine ⟨w.levels.getLastD [], w.map_data_addJobNodes g, hlevels, fun n hn hkind => ?_⟩
  -- no two nodes of the new layout have the same id, so it is enough that the node is among them
  apply (Graph.node?_eq_some_iff (nodup_map_id_nodes _ g)).mpr ⟨?_, rfl⟩
  rcases hkind with hjob | htrigger
  · have hold : n ∈ w.jobNodes g := mem_jobNodes_iff.mpr ⟨hn, hjob⟩
    refine (mem_jobNodes_iff.mp ?_).1
    rw [jobNodes_addJob hlevels]
    exact List.mem_append_left _ hold
  · have hold : n ∈ w.triggerNodes g := mem_triggerNodes_iff.mpr ⟨hn, htrigger⟩
    refine (mem_triggerNodes_iff.mp ?_).1
    rwa [triggerNodes_addJob hlevels]

/-- The new job is one that another job was missing, and by this gets on a cycle. -/
example :
    let w : Workflow :=
      { jobs := .ofList [("a", {}), ("b", { needs := some (.many ["a", "job-1"]) })] }
    w.levels = [["a"], ["b"]] ∧ (w.addJob ["b"]).1.levels = [["a"], ["b"], ["job-1"]] := by
  decide +kernel

end Workflow

end CiWorkflow
