import CiWorkflow.Proofs.ColumnPartition
import CiWorkflow.Proofs.LayoutNodes
/-!
# The Edges of a Layout

Edges are made in three places: from needs to jobs, from triggers to the first column, and from the
last column to the place of a further job. Only needs can be repeated, and only there repetitions
are taken out. Elsewhere a column holds no job twice, and what tells the three kinds of edges from
each other is that neither a trigger nor the place of a further job has the id of a job.

This complements `LayoutNodes`, which tells the ids of nodes apart.

## Layers

- **First and last column**: they hold jobs, and none twice.
- **Kinds of edges**: what each kind holds, and that it holds nothing twice.
- **All edges** run between nodes, each of them once.
-/

namespace CiWorkflow

theorem nodup_eraseDups {α : Type} [BEq α] [LawfulBEq α] (items : List α) :
    items.eraseDups.Nodup := by
  match items with
  | [] => simp
  | item :: rest =>
    rw [List.eraseDups_cons, List.nodup_cons]
    constructor
    · simp
    · -- the recursion is on what is left without the first item, not on the rest of the list
      exact nodup_eraseDups (rest.filter fun other => !other == item)
  termination_by items.length
  decreasing_by exact Nat.lt_succ_of_le (List.length_filter_le _ _)

namespace Workflow

/-! ## First and last column -/

/-- The first column holds jobs, in their order, and none of them twice. -/
theorem headD_levels_sublist (w : Workflow) : (w.levels.headD []).Sublist w.jobs.keys := by
  cases hlevels : w.levels with
  | nil => exact List.nil_sublist _
  | cons column rest =>
    have hcolumn : column ∈ w.levels := by simp [hlevels]
    exact (column_sublist_keys hcolumn).2

theorem getLastD_levels_sublist (w : Workflow) : (w.levels.getLastD []).Sublist w.jobs.keys := by
  rw [List.getLastD_eq_getLast?]
  cases hcolumn : w.levels.getLast? with
  | none => exact List.nil_sublist _
  | some column => exact (column_sublist_keys (List.mem_of_getLast? hcolumn)).2

/-! ## Kinds of edges -/

/-- The edges from needs to jobs. -/
def dependencyEdges (w : Workflow) : List FlowEdge :=
  w.jobs.entries.flatMap fun e => w.needEdges e.1 e.2

/-- The edges from triggers to the first column. -/
def entryEdges (w : Workflow) : List FlowEdge :=
  (List.range w.triggerData.length).flatMap fun index =>
    (w.levels.headD []).map fun id => ⟨w.triggerId index, id⟩

/-- The edges from the last column to the place of a further job. -/
def appendEdges (w : Workflow) : List FlowEdge :=
  (w.levels.getLastD []).map fun id => ⟨id, w.addJobId⟩

theorem edges_eq (w : Workflow) :
    w.edges = w.dependencyEdges ++ w.entryEdges ++ w.appendEdges := rfl

variable {w : Workflow} {e : FlowEdge}

/-- A need makes an edge just where it is a job. -/
theorem mem_needEdges {id : String} {j : Job} :
    e ∈ w.needEdges id j ↔ e.target = id ∧ e.source ∈ j.needsList ∧ e.source ∈ w.jobs.keys := by
  simp only [needEdges, List.mem_map, List.mem_eraseDups, List.mem_filter, KeyedList.contains_iff]
  constructor
  · rintro ⟨need, hneed, rfl⟩
    exact ⟨rfl, hneed⟩
  · rintro ⟨rfl, hneed⟩
    exact ⟨e.source, hneed, rfl⟩

/-- An edge of this kind enters a job that has the need. -/
theorem mem_dependencyEdges : e ∈ w.dependencyEdges ↔
    ∃ j, w.jobs.get? e.target = some j ∧ e.source ∈ j.needsList ∧ e.source ∈ w.jobs.keys := by
  simp only [dependencyEdges, List.mem_flatMap, mem_needEdges]
  constructor
  · rintro ⟨entry, hentry, htarget, hneed⟩
    exact ⟨entry.2, KeyedList.get?_eq_some_iff.mpr (htarget ▸ hentry), hneed⟩
  · rintro ⟨j, hj, hneed⟩
    exact ⟨(e.target, j), KeyedList.get?_eq_some_iff.mp hj, rfl, hneed⟩

/-- An edge of this kind leaves a trigger, and every job of the first column has one. -/
theorem mem_entryEdges : e ∈ w.entryEdges ↔
    e.source ∈ (List.range w.triggerData.length).map w.triggerId ∧
      e.target ∈ w.levels.headD [] := by
  simp only [entryEdges, List.mem_flatMap, List.mem_map]
  constructor
  · rintro ⟨index, hindex, id, hid, rfl⟩
    exact ⟨⟨index, hindex, rfl⟩, hid⟩
  · obtain ⟨source, target⟩ := e
    rintro ⟨⟨index, hindex, rfl⟩, htarget⟩
    exact ⟨index, hindex, target, htarget, rfl⟩

/-- An edge of this kind enters the place of a further job. -/
theorem mem_appendEdges :
    e ∈ w.appendEdges ↔ e.source ∈ w.levels.getLastD [] ∧ e.target = w.addJobId := by
  simp only [appendEdges, List.mem_map]
  constructor
  · rintro ⟨id, hid, rfl⟩
    exact ⟨hid, rfl⟩
  · obtain ⟨source, target⟩ := e
    rintro ⟨hsource, rfl⟩
    exact ⟨source, hsource, rfl⟩

/-- Needs may be repeated, and make one edge still. -/
theorem nodup_dependencyEdges (w : Workflow) : w.dependencyEdges.Nodup := by
  rw [dependencyEdges, List.nodup_flatMap]
  constructor
  · intro entry _
    apply (nodup_eraseDups _).map
    intro need other h
    exact congrArg FlowEdge.source h
  · -- no job stands twice, so that edges of different entries have different targets
    apply (List.pairwise_map.mp w.jobs.distinct).imp
    intro entry other hne e he hother
    exact hne ((mem_needEdges.mp he).1.symm.trans (mem_needEdges.mp hother).1)

/-- No two triggers have one id, and no job stands in a column twice. -/
theorem nodup_entryEdges (w : Workflow) : w.entryEdges.Nodup := by
  rw [entryEdges, List.nodup_flatMap]
  constructor
  · intro index _
    apply (w.headD_levels_sublist.nodup w.jobs.distinct).map
    intro id other h
    exact congrArg FlowEdge.target h
  · apply List.nodup_range.imp
    intro index other hne e he hother
    obtain ⟨id, _, rfl⟩ := List.mem_map.mp he
    obtain ⟨id', _, heq⟩ := List.mem_map.mp hother
    exact hne (w.triggerId_injective (congrArg FlowEdge.source heq).symm)

theorem nodup_appendEdges (w : Workflow) : w.appendEdges.Nodup := by
  apply (w.getLastD_levels_sublist.nodup w.jobs.distinct).map
  intro id other h
  exact congrArg FlowEdge.source h

/-- All edges but those to the place of a further job enter a job. -/
theorem target_mem_keys (he : e ∈ w.dependencyEdges ++ w.entryEdges) : e.target ∈ w.jobs.keys := by
  rcases List.mem_append.mp he with hneed | hentry
  · obtain ⟨j, hj, _⟩ := mem_dependencyEdges.mp hneed
    exact List.mem_map_of_mem (KeyedList.get?_eq_some_iff.mp hj)
  · exact w.headD_levels_sublist.subset (mem_entryEdges.mp hentry).2

/-! ## All edges -/

/-- No edge stands twice, because edges of different kinds differ in an end that is a job only for
one of them. -/
theorem nodup_edges (w : Workflow) : w.edges.Nodup := by
  rw [edges_eq, List.nodup_append, List.nodup_append]
  refine ⟨⟨w.nodup_dependencyEdges, w.nodup_entryEdges, ?_⟩, w.nodup_appendEdges, ?_⟩
  · -- an edge from a need leaves a job, and one from a trigger does not
    rintro e hneed _ hentry rfl
    obtain ⟨_, _, _, hsource⟩ := mem_dependencyEdges.mp hneed
    obtain ⟨index, _, htrigger⟩ := List.mem_map.mp (mem_entryEdges.mp hentry).1
    exact w.syntheticId_not_mem_keys _ (htrigger ▸ hsource)
  · -- only the edges to the place of a further job do not enter a job
    rintro e hjob _ happend rfl
    have htarget := target_mem_keys hjob
    rw [(mem_appendEdges.mp happend).2] at htarget
    exact w.syntheticId_not_mem_keys _ htarget

variable {α : Type} [Coordinate α]

/-- The ids that edges take for triggers are those of the nodes of triggers. -/
theorem mem_map_triggerId_iff {g : Geometry α} {id : String} :
    id ∈ (List.range w.triggerData.length).map w.triggerId ↔
      ∃ t ∈ (w.layout g).nodes, t.data.isTrigger = true ∧ id = t.id := by
  rw [← map_id_triggerNodes w g, List.mem_map]
  constructor
  · rintro ⟨t, ht, rfl⟩
    obtain ⟨hnode, hkind⟩ := mem_triggerNodes_iff.mp ht
    exact ⟨t, hnode, hkind, rfl⟩
  · rintro ⟨t, hnode, hkind, rfl⟩
    exact ⟨t, mem_triggerNodes_iff.mpr ⟨hnode, hkind⟩, rfl⟩

theorem eq_addJobId_iff {g : Geometry α} {id : String} :
    id = w.addJobId ↔ ∃ a ∈ (w.layout g).nodes, a.data.isAddJob = true ∧ id = a.id := by
  constructor
  · rintro rfl
    obtain ⟨hnode, hkind⟩ := eq_addJobNode_iff.mp (Eq.refl (w.addJobNode g))
    exact ⟨w.addJobNode g, hnode, hkind, rfl⟩
  · rintro ⟨a, hnode, hkind, rfl⟩
    rw [eq_addJobNode_iff.mpr ⟨hnode, hkind⟩]
    rfl

/-- Edges run between nodes: none is left hanging by a need that names no job. -/
theorem endpoints_mem_nodes (g : Geometry α) (he : e ∈ w.edges) :
    e.source ∈ (w.nodes g).map FlowNode.id ∧ e.target ∈ (w.nodes g).map FlowNode.id := by
  -- ids of nodes by the three families, so that each family of edges is asked for one of them
  have hids : ∀ id, id ∈ (w.nodes g).map FlowNode.id ↔
      (id ∈ (List.range w.triggerData.length).map w.triggerId ∨ id ∈ w.jobs.keys) ∨
        id = w.addJobId := by
    intro id
    rw [(w.perm_map_id_nodes g).mem_iff, List.mem_append, List.mem_append, List.mem_singleton]
  rw [edges_eq, List.mem_append] at he
  simp only [hids]
  rcases he with hjob | happend
  · refine ⟨?_, .inl (.inr (target_mem_keys hjob))⟩
    rcases List.mem_append.mp hjob with hneed | hentry
    · obtain ⟨_, _, _, hsource⟩ := mem_dependencyEdges.mp hneed
      exact .inl (.inr hsource)
    · exact .inl (.inl (mem_entryEdges.mp hentry).1)
  · obtain ⟨hsource, htarget⟩ := mem_appendEdges.mp happend
    exact ⟨.inl (.inr (w.getLastD_levels_sublist.subset hsource)), .inr htarget⟩

/-- **A layout has exactly the edges it should have.** There is one edge to each job from every job
that it needs, however often it needs it, one from every trigger to every job of the first column,
and one from every job of the last column to the place of a further job, which is to need just these
jobs. No edge stands twice, and all of them run between nodes of the layout. -/
theorem layout_edges_exact (w : Workflow) (g : Geometry α) :
    (w.layout g).edges.Nodup ∧
    (∀ e, e ∈ (w.layout g).edges ↔
      (∃ j, w.jobs.get? e.target = some j ∧ e.source ∈ j.needsList ∧ e.source ∈ w.jobs.keys) ∨
      (∃ t ∈ (w.layout g).nodes, t.data.isTrigger = true ∧ e.source = t.id ∧
        e.target ∈ w.levels.headD []) ∨
      ∃ a ∈ (w.layout g).nodes, a.data.isAddJob = true ∧ e.target = a.id ∧
        e.source ∈ w.levels.getLastD []) ∧
    (∀ e ∈ (w.layout g).edges, e.source ∈ (w.layout g).nodes.map FlowNode.id ∧
      e.target ∈ (w.layout g).nodes.map FlowNode.id) ∧
    ((w.layout g).nodes.filter (·.data.isAddJob)).map FlowNode.data =
      [.addJob (w.levels.getLastD [])] := by
  refine ⟨w.nodup_edges, fun e => ?_, fun e he => w.endpoints_mem_nodes g he,
    w.map_data_addJobNodes g⟩
  show e ∈ w.dependencyEdges ++ w.entryEdges ++ w.appendEdges ↔ _
  rw [List.mem_append, List.mem_append, or_assoc, mem_dependencyEdges, mem_entryEdges,
    mem_appendEdges, mem_map_triggerId_iff (g := g), eq_addJobId_iff (g := g)]
  -- what is left is to take the node out of the ids, one kind of edges after the other
  refine or_congr Iff.rfl (or_congr ?_ ?_)
  · constructor
    · rintro ⟨⟨t, hnode, hkind, hsource⟩, htarget⟩
      exact ⟨t, hnode, hkind, hsource, htarget⟩
    · rintro ⟨t, hnode, hkind, hsource, htarget⟩
      exact ⟨⟨t, hnode, hkind, hsource⟩, htarget⟩
  · constructor
    · rintro ⟨hsource, a, hnode, hkind, htarget⟩
      exact ⟨a, hnode, hkind, htarget, hsource⟩
    · rintro ⟨a, hnode, hkind, htarget, hsource⟩
      exact ⟨hsource, a, hnode, hkind, htarget⟩

/-- A need that is repeated makes one edge, one that names no job makes none, and a job that needs
itself has an edge to itself. -/
example :
    let w : Workflow :=
      { jobs := .ofList [("a", {}), ("b", { needs := some (.many ["ghost", "a", "b", "a"]) })] }
    w.edges = [⟨"a", "b"⟩, ⟨"b", "b"⟩, ⟨"trigger:0", "a"⟩, ⟨"b", "add-job:"⟩] := by
  decide +kernel

end Workflow

end CiWorkflow
