import CiWorkflow.Layout
import CiWorkflow.Proofs.Levels
import Mathlib.Data.List.Nodup
/-!
# The Nodes of a Layout

The nodes of a layout stand for triggers, for jobs and for the place of a further job. Ids of jobs
are arbitrary, so the ids of the other nodes have to keep away from them: each gets colons until no
job has it. What stands before the colons tells these nodes from each other, since a number has no
colon, and so it does not matter how many colons each of them got.

## Layers

- **Names with colons**: `ColonsPushed` pushes colons one by one, and has one result at most.
- **Graphs**: the node of an id, where ids are told apart.
- **Ids**: pushing colons ends with the first name that no job has.
- **Nodes**: what they show, apart from their places, and their ids.
- **Kinds**: the nodes of each kind.
- **Layouts** have a node for every trigger, every job and a further job.
-/

namespace CiWorkflow

/-! ## Names with colons -/

/-- Colons are put behind an id one by one as long as it is taken. -/
inductive ColonsPushed (taken : List String) : String → String → Prop where
  | free {id : String} (hfree : id ∉ taken) : ColonsPushed taken id id
  /-- The id is taken, and gets a colon. -/
  | push {id result : String} (htaken : id ∈ taken)
      (hrest : ColonsPushed taken (id.push ':') result) : ColonsPushed taken id result

theorem withColons_zero (name : String) : withColons name 0 = name := by
  simp [withColons]

/-- Colons may be counted from either side. -/
theorem withColons_push (name : String) (count : Nat) :
    withColons (name.push ':') count = withColons name (count + 1) := by
  apply String.toList_injective
  simp [withColons, List.replicate_succ]

theorem withColons_injective (name : String) {m n : Nat}
    (h : withColons name m = withColons name n) : m = n := by
  have hcolons := (String.append_right_inj name).mp h
  rw [String.ofList_inj] at hcolons
  simpa using congrArg List.length hcolons

/-- The search comes to the first count of colons that is free. -/
theorem colonsPushed_withColons {taken : List String} {name : String} {count : Nat}
    (hfree : withColons name count ∉ taken) (htaken : ∀ m < count, withColons name m ∈ taken) :
    ColonsPushed taken name (withColons name count) := by
  induction count generalizing name with
  | zero =>
    rw [withColons_zero] at hfree ⊢
    exact .free hfree
  | succ count ih =>
    rw [← withColons_push] at hfree ⊢
    refine .push (withColons_zero name ▸ htaken 0 (Nat.succ_pos count)) (ih hfree ?_)
    intro m hm
    rw [withColons_push]
    exact htaken (m + 1) (Nat.succ_lt_succ hm)

/-- The search has one result. -/
theorem ColonsPushed.unique {taken : List String} {name a b : String}
    (ha : ColonsPushed taken name a) (hb : ColonsPushed taken name b) : a = b := by
  induction ha with
  | free hfree =>
    cases hb with
    | free => rfl
    | push htaken => exact absurd htaken hfree
  | push htaken _ ih =>
    cases hb with
    | free hfree => exact absurd htaken hfree
    | push _ hrest => exact ih hrest

/-! ## Graphs -/

/-- A node apart from its place. -/
def FlowNode.content {α : Type} (n : FlowNode α) : String × NodeData := (n.id, n.data)

/-- Where no two nodes have the same id, the node of an id is the one that has it. -/
theorem Graph.node?_eq_some_iff {α : Type} {g : Graph α}
    (h : (g.nodes.map FlowNode.id).Nodup) {id : String} {n : FlowNode α} :
    g.node? id = some n ↔ n ∈ g.nodes ∧ n.id = id := by
  constructor
  · intro hnode
    exact ⟨List.mem_of_find?_eq_some hnode, by simpa using List.find?_some hnode⟩
  · rintro ⟨hmem, rfl⟩
    have hsome : (g.node? n.id).isSome := List.find?_isSome.mpr ⟨n, hmem, by simp⟩
    obtain ⟨found, hfound⟩ := Option.isSome_iff_exists.mp hsome
    have hid : found.id = n.id := by simpa using List.find?_some hfound
    rw [hfound, List.inj_on_of_nodup_map h (List.mem_of_find?_eq_some hfound) hmem hid]

namespace Workflow

/-! ## Ids -/

/-- Colons are put behind an id until no job has it, which comes to an end. -/
theorem colonsPushed_iff (w : Workflow) {id result : String} :
    ColonsPushed w.jobs.keys id result ↔ result = w.syntheticId id := by
  obtain ⟨count, _, hname, hfree, htaken⟩ :=
    exists_fresh_eq w.jobs.keys (withColons id) fun _ _ => withColons_injective id
  have hpushed : ColonsPushed w.jobs.keys id (w.syntheticId id) := by
    rw [syntheticId, hname]
    exact colonsPushed_withColons hfree htaken
  exact ⟨fun h => h.unique hpushed, fun h => h ▸ hpushed⟩

/-- No job has an id that is made up. -/
theorem syntheticId_not_mem_keys (w : Workflow) (id : String) :
    w.syntheticId id ∉ w.jobs.keys :=
  fresh_not_mem _ _ fun _ _ => withColons_injective id

example : fresh ["add-job", "trigger:0", "add-job:"] (withColons "add-job:") = "add-job::" := by
  decide +kernel

/-- Colons are all that is put behind a name. -/
theorem exists_syntheticId_eq (w : Workflow) (id : String) :
    ∃ count, w.syntheticId id = withColons id count := by
  obtain ⟨count, _, hname, _⟩ :=
    exists_fresh_eq w.jobs.keys (withColons id) fun _ _ => withColons_injective id
  exact ⟨count, hname⟩

/-- The number of a trigger is read off its id, however many colons stand behind it. -/
theorem triggerId_injective (w : Workflow) {m n : Nat} (h : w.triggerId m = w.triggerId n) :
    m = n := by
  obtain ⟨a, ha⟩ := w.exists_syntheticId_eq ("trigger:" ++ toString m)
  obtain ⟨b, hb⟩ := w.exists_syntheticId_eq ("trigger:" ++ toString n)
  rw [triggerId, triggerId, ha, hb, withColons, withColons, String.append_assoc,
    String.append_assoc, String.append_right_inj] at h
  have hchars := congrArg String.toList h
  rw [String.toList_append, String.toList_append, String.toList_ofList, String.toList_ofList]
    at hchars
  -- what follows the number, if anything does, is a colon
  have hcolon : ∀ count, ∀ c ∈ (List.replicate count ':').head?, c.isDigit = false := by
    intro count c hc
    rw [List.eq_of_mem_replicate (List.mem_of_head? hc)]
    rfl
  exact eq_of_toString_append_eq hchars (hcolon a) (hcolon b)

/-- Triggers and the place of a further job never get the same id. -/
theorem triggerId_ne_addJobId (w : Workflow) (index : Nat) : w.triggerId index ≠ w.addJobId := by
  intro h
  obtain ⟨a, ha⟩ := w.exists_syntheticId_eq ("trigger:" ++ toString index)
  obtain ⟨b, hb⟩ := w.exists_syntheticId_eq "add-job:"
  rw [triggerId, addJobId, ha, hb] at h
  -- the first letters differ
  have hfirst := congrArg (fun name => name.toList.head?) h
  simp [withColons] at hfirst

/-! ## Nodes -/

variable {α : Type} [Coordinate α]

theorem map_data_triggerNodes (w : Workflow) (g : Geometry α) :
    (w.triggerNodes g).map FlowNode.data = w.triggerData := by
  rw [triggerNodes, List.mapIdx_eq_zipIdx_map, List.map_map]
  exact List.zipIdx_map_fst 0 w.triggerData

/-- No triggers take as much room as one, since a placeholder stands for them. -/
theorem length_triggerNodes (w : Workflow) (g : Geometry α) :
    (w.triggerNodes g).length = max w.triggers.length 1 := by
  have hdata := congrArg List.length (w.map_data_triggerNodes g)
  rw [List.length_map] at hdata
  rw [hdata, triggerData]
  cases htriggers : w.triggers with
  | nil => rfl
  | cons t rest => simp

theorem triggerNodes_ne_nil (w : Workflow) (g : Geometry α) : w.triggerNodes g ≠ [] := by
  rw [← List.length_pos_iff, length_triggerNodes]
  exact Nat.lt_of_lt_of_le Nat.one_pos (Nat.le_max_right ..)

/-- Where an item stands makes no difference if it makes none to what is kept of it. -/
private theorem map_mapIdx_of_forall {β γ δ : Type} {place : Nat → β → γ} {keep : γ → δ} {f : β → δ}
    (h : ∀ index b, keep (place index b) = f b) (items : List β) :
    (items.mapIdx place).map keep = items.map f := by
  rw [List.mapIdx_eq_zipIdx_map, List.map_map]
  conv_rhs => rw [← List.zipIdx_map_fst 0 items, List.map_map]
  exact List.map_congr_left fun e _ => h e.2 e.1

/-- The jobs of a column, wherever their nodes stand. -/
theorem map_columnNodes (w : Workflow) (g : Geometry α) (column : Nat) (ids : List String) :
    (w.columnNodes g column ids).map FlowNode.content =
      ids.filterMap fun id => (w.jobs.get? id).map fun j => (id, jobData id j) := by
  have hrow : ∀ (row : Nat) id, ((w.jobs.get? id).map fun j =>
      (⟨id, ⟨g.columnX column, g.rowY row⟩, jobData id j⟩ : FlowNode α)).map FlowNode.content =
        (w.jobs.get? id).map fun j => (id, jobData id j) := fun _ _ => Option.map_map ..
  rw [columnNodes, List.map_filterMap]
  show (List.mapIdx _ ids).filterMap (id ∘ Option.map FlowNode.content) = _
  rw [← List.filterMap_map, map_mapIdx_of_forall hrow, List.filterMap_map]
  rfl

/-- There is a node for every job and no other one. -/
theorem perm_map_jobNodes (w : Workflow) (g : Geometry α) :
    ((w.jobNodes g).map FlowNode.content).Perm
      (w.jobs.entries.map fun e => (e.1, jobData e.1 e.2)) := by
  have hcolumns : (w.jobNodes g).map FlowNode.content =
      w.levels.flatten.filterMap fun id => (w.jobs.get? id).map fun j => (id, jobData id j) := by
    rw [jobNodes, List.map_flatten, List.filterMap_flatten,
      map_mapIdx_of_forall fun column ids => w.map_columnNodes g column ids]
  have hkeys : (w.jobs.keys.filterMap fun id => (w.jobs.get? id).map fun j => (id, jobData id j)) =
      w.jobs.entries.map fun e => (e.1, jobData e.1 e.2) := by
    rw [KeyedList.keys, List.filterMap_map, ← List.filterMap_eq_map]
    apply List.filterMap_congr
    intro e he
    simp [KeyedList.get?_eq_some_iff.mpr he]
  -- every job is in one column, so the order of the columns is all that differs
  rw [hcolumns, ← hkeys]
  exact w.perm_flatten_levels.filterMap _

/-- Triggers are numbered from zero. -/
theorem map_id_triggerNodes (w : Workflow) (g : Geometry α) :
    (w.triggerNodes g).map FlowNode.id = (List.range w.triggerData.length).map w.triggerId := by
  rw [triggerNodes, List.mapIdx_eq_zipIdx_map, List.map_map, List.range_eq_range',
    ← List.zipIdx_map_snd, List.map_map]
  rfl

theorem perm_map_id_jobNodes (w : Workflow) (g : Geometry α) :
    ((w.jobNodes g).map FlowNode.id).Perm w.jobs.keys := by
  have hids := (w.perm_map_jobNodes g).map Prod.fst
  rwa [List.map_map, List.map_map] at hids

/-- All ids of a layout, by kinds. -/
theorem perm_map_id_nodes (w : Workflow) (g : Geometry α) :
    ((w.nodes g).map FlowNode.id).Perm
      ((List.range w.triggerData.length).map w.triggerId ++ w.jobs.keys ++ [w.addJobId]) := by
  rw [nodes, List.map_append, List.map_append, map_id_triggerNodes]
  exact ((w.perm_map_id_jobNodes g).append_left _).append_right _

/-- No id stands twice: those of triggers and of the last node are made not to be ids of jobs. -/
theorem nodup_map_id_nodes (w : Workflow) (g : Geometry α) :
    ((w.nodes g).map FlowNode.id).Nodup := by
  rw [(w.perm_map_id_nodes g).nodup_iff, List.nodup_append, List.nodup_append]
  -- ids of one kind differ, then triggers from jobs, then the last node from both
  refine ⟨⟨?_, w.jobs.distinct, ?_⟩, List.nodup_singleton _, ?_⟩
  · exact List.nodup_range.map fun _ _ => w.triggerId_injective
  · intro id hid job hjob heq
    obtain ⟨index, _, rfl⟩ := List.mem_map.mp hid
    exact w.syntheticId_not_mem_keys _ (heq ▸ hjob)
  · intro id hid last hlast heq
    rw [List.mem_singleton] at hlast
    subst hlast heq
    rcases List.mem_append.mp hid with htrigger | hjob
    · obtain ⟨index, _, hindex⟩ := List.mem_map.mp htrigger
      exact w.triggerId_ne_addJobId index hindex
    · exact w.syntheticId_not_mem_keys _ hjob

/-! ## Kinds -/

theorem isTrigger_of_mem_triggerNodes {w : Workflow} {g : Geometry α} {n : FlowNode α}
    (h : n ∈ w.triggerNodes g) : n.data.isTrigger = true := by
  obtain ⟨index, hindex, rfl⟩ := List.mem_mapIdx.mp h
  have hdata : w.triggerData[index] ∈ w.triggerData := List.getElem_mem hindex
  show w.triggerData[index].isTrigger = true
  generalize w.triggerData[index] = data at hdata
  unfold triggerData at hdata
  split at hdata
  · rw [List.mem_singleton.mp hdata]
    rfl
  · obtain ⟨t, _, rfl⟩ := List.mem_map.mp hdata
    rfl

theorem isJob_of_mem_jobNodes {w : Workflow} {g : Geometry α} {n : FlowNode α}
    (h : n ∈ w.jobNodes g) : n.data.isJob = true := by
  have hcontent := (w.perm_map_jobNodes g).subset (List.mem_map_of_mem (f := FlowNode.content) h)
  obtain ⟨e, _, he⟩ := List.mem_map.mp hcontent
  have hdata : n.data = jobData e.1 e.2 := (congrArg Prod.snd he).symm
  rw [hdata]
  rfl

/-- The nodes by their kinds. -/
theorem filter_nodes (w : Workflow) (g : Geometry α) :
    (w.nodes g).filter (·.data.isTrigger) = w.triggerNodes g ∧
    (w.nodes g).filter (·.data.isJob) = w.jobNodes g ∧
    (w.nodes g).filter (·.data.isAddJob) = [w.addJobNode g] := by
  have htrigger : ∀ n ∈ w.triggerNodes g, n.data.isTrigger ∧ ¬n.data.isJob ∧ ¬n.data.isAddJob := by
    intro n hn
    have hkind := isTrigger_of_mem_triggerNodes hn
    revert hkind
    cases n.data <;> simp [NodeData.isTrigger, NodeData.isJob, NodeData.isAddJob]
  have hjob : ∀ n ∈ w.jobNodes g, ¬n.data.isTrigger ∧ n.data.isJob ∧ ¬n.data.isAddJob := by
    intro n hn
    have hkind := isJob_of_mem_jobNodes hn
    revert hkind
    cases n.data <;> simp [NodeData.isTrigger, NodeData.isJob, NodeData.isAddJob]
  -- each filter keeps one of the three parts whole and drops the other two
  rw [nodes]
  simp only [List.filter_append]
  refine ⟨?_, ?_, ?_⟩
  · rw [List.filter_eq_self.mpr fun n hn => (htrigger n hn).1,
      List.filter_eq_nil_iff.mpr fun n hn => (hjob n hn).1, List.append_nil]
    exact List.append_nil _
  · rw [List.filter_eq_nil_iff.mpr fun n hn => (htrigger n hn).2.1,
      List.filter_eq_self.mpr fun n hn => (hjob n hn).2.1, List.nil_append]
    exact List.append_nil _
  · rw [List.filter_eq_nil_iff.mpr fun n hn => (htrigger n hn).2.2,
      List.filter_eq_nil_iff.mpr fun n hn => (hjob n hn).2.2]
    rfl

/-- A node tells by its data whether it is one of those for triggers. -/
theorem mem_triggerNodes_iff {w : Workflow} {g : Geometry α} {n : FlowNode α} :
    n ∈ w.triggerNodes g ↔ n ∈ (w.layout g).nodes ∧ n.data.isTrigger = true := by
  rw [← (w.filter_nodes g).1, List.mem_filter]
  rfl

theorem mem_jobNodes_iff {w : Workflow} {g : Geometry α} {n : FlowNode α} :
    n ∈ w.jobNodes g ↔ n ∈ (w.layout g).nodes ∧ n.data.isJob = true := by
  rw [← (w.filter_nodes g).2.1, List.mem_filter]
  rfl

/-- There is one place for a further job. -/
theorem eq_addJobNode_iff {w : Workflow} {g : Geometry α} {n : FlowNode α} :
    n = w.addJobNode g ↔ n ∈ (w.layout g).nodes ∧ n.data.isAddJob = true := by
  rw [← List.mem_singleton, ← (w.filter_nodes g).2.2, List.mem_filter]
  rfl

/-- It says which jobs the further one would need, and these are the last column. -/
theorem map_data_addJobNodes (w : Workflow) (g : Geometry α) :
    ((w.layout g).nodes.filter (·.data.isAddJob)).map FlowNode.data =
      [.addJob (w.levels.getLastD [])] := by
  show ((w.nodes g).filter (·.data.isAddJob)).map FlowNode.data = _
  rw [(w.filter_nodes g).2.2]
  rfl

/-! ## Layouts -/

/-- A layout has a node for every trigger, or one in their place, a node for every job, under its
id, and one for a further job. No two nodes have the same id, whatever the ids of the jobs are. -/
theorem layout_nodes_faithful (w : Workflow) (g : Geometry α) :
    (∀ id result, ColonsPushed w.jobs.keys id result ↔ result = w.syntheticId id) ∧
    ((w.layout g).nodes.map FlowNode.id).Nodup ∧
    ((w.layout g).nodes.filter (·.data.isTrigger)).map FlowNode.data =
      (if w.triggers = [] then [.trigger none "No triggers configured"]
        else w.triggers.map fun t => .trigger (some t) t.label) ∧
    (((w.layout g).nodes.filter (·.data.isJob)).map FlowNode.content).Perm
      (w.jobs.entries.map fun e => (e.1, jobData e.1 e.2)) ∧
    ((w.layout g).nodes.filter (·.data.isAddJob)).map FlowNode.data =
      [.addJob (w.levels.getLastD [])] ∧
    ∀ id j, w.jobs.get? id = some j →
      ∃ n, (w.layout g).node? id = some n ∧ n.content = (id, jobData id j) := by
  have hnodup : ((w.layout g).nodes.map FlowNode.id).Nodup := w.nodup_map_id_nodes g
  obtain ⟨htriggers, hjobs, hadd⟩ := w.filter_nodes g
  refine ⟨fun _ _ => w.colonsPushed_iff, hnodup, ?_, ?_, ?_, ?_⟩
  · show ((w.nodes g).filter (·.data.isTrigger)).map FlowNode.data = _
    rw [htriggers, map_data_triggerNodes, triggerData]
    simp only [List.isEmpty_iff]
  · show (((w.nodes g).filter (·.data.isJob)).map FlowNode.content).Perm _
    rw [hjobs]
    exact w.perm_map_jobNodes g
  · show ((w.nodes g).filter (·.data.isAddJob)).map FlowNode.data = _
    rw [hadd]
    rfl
  · -- ids differ, so that the node with the id of the job is the one that is found
    intro id j hj
    have hcontent : (id, jobData id j) ∈ (w.jobNodes g).map FlowNode.content :=
      (w.perm_map_jobNodes g).mem_iff.mpr
        (List.mem_map_of_mem (f := fun e => (e.1, jobData e.1 e.2))
          (KeyedList.get?_eq_some_iff.mp hj))
    obtain ⟨n, hn, hnode⟩ := List.mem_map.mp hcontent
    have hmem : n ∈ (w.layout g).nodes := by
      show n ∈ w.triggerNodes g ++ w.jobNodes g ++ [w.addJobNode g]
      simp [hn]
    exact ⟨n, (Graph.node?_eq_some_iff hnodup).mpr ⟨hmem, congrArg Prod.fst hnode⟩, hnode⟩

end Workflow

end CiWorkflow
