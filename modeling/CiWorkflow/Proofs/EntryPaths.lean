import CiWorkflow.Proofs.Depth
import CiWorkflow.Proofs.LayoutEdges
/-!
# Paths from the Triggers

Where the needs of jobs are sound, nothing is placed by force, so the first column holds the jobs
without needs. These are the jobs to which the edges of the triggers lead, and from them the edges
of needs lead on, from one column to later ones. So all jobs hang off every trigger.

This complements `LayoutEdges`, which tells the edges one by one.

## Layers

- **First column**: the jobs that need nothing, in their order.
- **Paths**: edges put together, from a trigger to the jobs in one column after the other.
-/

namespace CiWorkflow

open Relation

/-- An edge leads from one node to another one. -/
def Graph.Links {α : Type} (g : Graph α) (a b : String) : Prop :=
  ∃ e ∈ g.edges, e.source = a ∧ e.target = b

/-- One or more edges lead from one node to another one. -/
abbrev Graph.Leads {α : Type} (g : Graph α) : String → String → Prop := TransGen g.Links

namespace Workflow

/-! ## First column -/

variable {w : Workflow}

theorem needsOf_of_mem_entries {e : String × Job} (he : e ∈ w.jobs.entries) :
    w.needsOf e.1 = e.2.needsList := by
  rw [needsOf, KeyedList.get?_eq_some_iff.mpr he]
  rfl

/-- Before anything is placed, the jobs are ready that need nothing. -/
theorem readyJobs_nil (w : Workflow) :
    readyJobs w.needsOf [] w.jobs.keys =
      (w.jobs.entries.filter fun e => e.2.needsList.isEmpty).map Prod.fst := by
  rw [readyJobs, KeyedList.keys, List.filter_map]
  congr 1
  apply List.filter_congr
  intro e he
  rw [Function.comp_apply, needsOf_of_mem_entries he]
  cases e.2.needsList <;> simp

/-- Where needs are sound, the first column holds the jobs that need nothing. -/
theorem SoundNeeds.headD_levels (h : w.SoundNeeds) :
    w.levels.headD [] =
      (w.jobs.entries.filter fun e => e.2.needsList.isEmpty).map Prod.fst := by
  rw [← readyJobs_nil]
  cases hlevels : w.levels with
  | nil =>
    -- without columns there are no jobs
    rw [levels_eq_nil_iff.mp hlevels]
    rfl
  | cons first rest =>
    have hindex : w.levels[0]? = some first := by
      rw [hlevels]
      rfl
    obtain ⟨hleft, hfirst⟩ := w.levelling_levels.eq_nextColumn hindex
    rw [List.take_zero, List.flatten_nil] at hleft hfirst
    rw [List.nil_append] at hfirst
    -- some job is ready, so the column was not placed by force
    rw [List.headD_cons, hfirst, nextColumn_of_ready (h.readyJobs_ne_nil hleft), leftOf_nil]

/-! ## Paths -/

variable {α : Type} [Coordinate α] {g : Geometry α}

/-- A need of a job that is a job itself makes a step towards it. -/
theorem links_of_need {id need : String} (hneed : need ∈ w.needsOf id) (hjob : need ∈ w.jobs.keys) :
    (w.layout g).Links need id := by
  obtain ⟨j, hj, hmem⟩ := requires_iff.mp hneed
  refine ⟨⟨need, id⟩, ?_, rfl, rfl⟩
  show _ ∈ w.edges
  rw [edges_eq]
  apply List.mem_append_left
  apply List.mem_append_left
  exact mem_dependencyEdges.mpr ⟨j, hj, hmem, hjob⟩

/-- Every trigger makes a step to every job of the first column. -/
theorem links_of_mem_headD {t : FlowNode α} (ht : t ∈ w.triggerNodes g) {id : String}
    (hid : id ∈ w.levels.headD []) : (w.layout g).Links t.id id := by
  refine ⟨⟨t.id, id⟩, ?_, rfl, rfl⟩
  show _ ∈ w.edges
  rw [edges_eq]
  refine List.mem_append_left _ (List.mem_append_right _ (mem_entryEdges.mpr ⟨?_, hid⟩))
  rw [← map_id_triggerNodes w g]
  exact List.mem_map_of_mem ht

/-- A job that needs nothing is reached at once, and any other one through each of its needs. -/
theorem SoundNeeds.leads_of_columnOf (h : w.SoundNeeds) {t : FlowNode α}
    (ht : t ∈ w.triggerNodes g) {index : Nat} {id : String}
    (hindex : columnOf w.levels id = some index) : (w.layout g).Leads t.id id := by
  -- along the columns: all that a job needs stands in an earlier one
  induction index using Nat.strongRecOn generalizing id with
  | ind index ih =>
    obtain ⟨j, hj⟩ := Option.isSome_iff_exists.mp
      ((w.jobs.isSome_get? id).trans (KeyedList.contains_iff.mpr (mem_keys_of_columnOf hindex)))
    have hentry : (id, j) ∈ w.jobs.entries := KeyedList.get?_eq_some_iff.mp hj
    cases hneeds : j.needsList with
    | nil =>
      refine .single (links_of_mem_headD ht ?_)
      rw [h.headD_levels, List.mem_map]
      exact ⟨(id, j), List.mem_filter.mpr ⟨hentry, by simp [hneeds]⟩, rfl⟩
    | cons need rest =>
      have hneed : need ∈ w.needsOf id := by
        rw [needsOf_of_mem_entries hentry, hneeds]
        exact List.mem_cons_self ..
      obtain ⟨i, hi, hlt⟩ := h.exists_columnOf_lt hindex hneed
      exact (ih i hlt hi).tail (links_of_need hneed (mem_keys_of_columnOf hi))

/-- **All jobs of a workflow with sound needs hang off its triggers.** The first column holds
exactly the jobs with an empty list of needs, in their order, and edges lead from the node of every
trigger, or from the one in their place, to the node of every job. -/
theorem layout_leads_to_jobs (w : Workflow) (g : Geometry α) (h : w.SoundNeeds) :
    w.levels.headD [] =
      (w.jobs.entries.filter fun e => e.2.needsList.isEmpty).map Prod.fst ∧
    (∃ t ∈ (w.layout g).nodes, t.data.isTrigger = true) ∧
    ∀ t ∈ (w.layout g).nodes, t.data.isTrigger = true →
      ∀ n ∈ (w.layout g).nodes, n.data.isJob = true → (w.layout g).Leads t.id n.id := by
  refine ⟨h.headD_levels, ?_, fun t ht htrigger n hn hjob => ?_⟩
  · obtain ⟨t, ht⟩ := List.exists_mem_of_ne_nil _ (w.triggerNodes_ne_nil g)
    exact ⟨t, mem_triggerNodes_iff.mp ht⟩
  · have hid : n.id ∈ w.jobs.keys :=
      (w.perm_map_id_jobNodes g).subset (List.mem_map_of_mem (mem_jobNodes_iff.mpr ⟨hn, hjob⟩))
    obtain ⟨index, hindex⟩ := exists_columnOf hid
    exact h.leads_of_columnOf (mem_triggerNodes_iff.mpr ⟨ht, htrigger⟩) hindex

/-- A first job, two that need it, a last one that needs both, one of them twice over, and a job
that stands alone. -/
def diamond : Workflow :=
  { on := .list [.event "push", .event "create"]
    jobs := .ofList [("ship", { needs := some (.many ["test", "docs", "test"]) }),
      ("test", { needs := some (.one "build") }), ("docs", { needs := some (.one "build") }),
      ("build", {}), ("lint", { needs := some (.many []) })] }

/-- The diamond in an order that has nothing to do with its needs. -/
theorem layout_leads_to_jobs_diamond :
    diamond.SoundNeeds ∧ diamond.levels = [["build", "lint"], ["test", "docs"], ["ship"]] ∧
    diamond.levels.headD [] =
      (diamond.jobs.entries.filter fun e => e.2.needsList.isEmpty).map Prod.fst ∧
    (∃ t ∈ (diamond.layout (Geometry.standard.map Float.ofNat)).nodes, t.data.isTrigger = true) ∧
    ∀ t ∈ (diamond.layout (Geometry.standard.map Float.ofNat)).nodes, t.data.isTrigger = true →
      ∀ n ∈ (diamond.layout (Geometry.standard.map Float.ofNat)).nodes, n.data.isJob = true →
        (diamond.layout (Geometry.standard.map Float.ofNat)).Leads t.id n.id := by
  have hbelow : ∀ id ∈ diamond.jobs.keys, diamond.SoundBelow 3 id := by decide +kernel
  have hsound : diamond.SoundNeeds :=
    soundNeeds_iff_forall_soundJob.mpr fun id hid => (hbelow id hid).soundJob
  exact ⟨hsound, by decide +kernel, layout_leads_to_jobs diamond _ hsound⟩

end Workflow

end CiWorkflow
