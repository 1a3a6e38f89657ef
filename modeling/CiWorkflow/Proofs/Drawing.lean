import CiWorkflow.Proofs.ColumnPartition
import CiWorkflow.Proofs.LayoutNodes
import Mathlib.Algebra.Order.Field.Rat
import Mathlib.Order.CompletePartialOrder
import Mathlib.Order.Interval.Set.Disjoint
import Mathlib.Tactic.Linarith
import Mathlib.Tactic.Positivity
import Mathlib.Tactic.Ring
/-!
# Places of Nodes

Triggers stand below each other, and so do the jobs of a column, row by row in a stack. A stack is
told by its place and its number of rows, and all that there is to say of its nodes follows from
these: they do not overlap, and the middle of a stack is the one that `centerY` computes. What then
is left is to compare the columns.

The numbers are rational here, so that nothing is rounded.

## Layers

- **Drawings**: what a node covers, and the middle of several nodes.
- **Rows and columns**: each begins where the one before it has ended.
- **Stacks**: nodes in rows below each other.
- **Places**: the nodes of the triggers and of each column are stacks.
- **Well drawn**: nothing overlaps, and everything is centered.
-/

namespace CiWorkflow

/-- Rational numbers, which are not rounded. -/
instance : Coordinate ℚ := ⟨Nat.cast⟩

namespace Geometry

/-! ## Drawings -/

/-- Nodes have a size, and gaps are not negative. -/
structure Drawable (g : Geometry ℚ) : Prop where
  nodeWidth : 0 < g.nodeWidth
  nodeHeight : 0 < g.nodeHeight
  addNodeSize : 0 < g.addNodeSize
  /-- Columns do not move into each other. -/
  horizontalGap : 0 ≤ g.horizontalGap
  /-- Rows do not move into each other. -/
  verticalGap : 0 ≤ g.verticalGap

/-- All that a node covers but for its border. -/
def inside (g : Geometry ℚ) (n : FlowNode ℚ) : Set (ℚ × ℚ) :=
  Set.Ioo n.position.x (n.position.x + g.nodeWidth) ×ˢ
    Set.Ioo n.position.y (n.position.y + g.nodeHeight)

/-- Two nodes do not overlap, though their borders may touch. -/
def Apart (g : Geometry ℚ) (m n : FlowNode ℚ) : Prop := Disjoint (g.inside m) (g.inside n)

/-- The middle between the upper border of the highest node and the lower one of the lowest node. -/
def IsMiddle (g : Geometry ℚ) (nodes : List (FlowNode ℚ)) (middle : ℚ) : Prop :=
  ∃ top bottom, IsLeast {y | ∃ n ∈ nodes, n.position.y = y} top ∧
    IsGreatest {y | ∃ n ∈ nodes, n.position.y + g.nodeHeight = y} bottom ∧
    middle = (top + bottom) / 2

variable {g : Geometry ℚ} {m n : FlowNode ℚ}

/-- What ends before something else begins does not meet it. -/
theorem disjoint_Ioo {a b c d : ℚ} (h : b ≤ c) : Disjoint (Set.Ioo a b) (Set.Ioo c d) :=
  Set.Ioo_disjoint_Ioo.mpr ((min_le_left ..).trans (h.trans (le_max_right ..)))

/-- A node that ends where another begins, or before it, leaves it room to the right. -/
theorem apart_of_left (h : m.position.x + g.nodeWidth ≤ n.position.x) : g.Apart m n :=
  Set.disjoint_prod.mpr (.inl (disjoint_Ioo h))

theorem apart_of_above (h : m.position.y + g.nodeHeight ≤ n.position.y) : g.Apart m n :=
  Set.disjoint_prod.mpr (.inr (disjoint_Ioo h))

/-! ## Rows and columns -/

theorem rowY_eq (g : Geometry ℚ) (row : Nat) :
    g.rowY row = row * (g.nodeHeight + g.verticalGap) := rfl

theorem rowY_zero (g : Geometry ℚ) : g.rowY 0 = 0 := by
  rw [rowY_eq, Nat.cast_zero, zero_mul]

theorem columnX_eq (g : Geometry ℚ) (column : Nat) :
    g.columnX column = g.triggerBand + column * (g.nodeWidth + g.horizontalGap) := rfl

/-- The middle is counted to the last row, and without rows as if there were one. -/
theorem centerY_eq (g : Geometry ℚ) (rows : Nat) :
    g.centerY rows = (g.rowY (max rows 1 - 1) + g.nodeHeight) / 2 := rfl

/-- Along steps of a size and a gap, what is later begins where what is earlier has ended. -/
theorem steps_apart {size gap : ℚ} (hsize : 0 < size) (hgap : 0 ≤ gap) {i k : Nat} (h : i < k) :
    i * (size + gap) + size ≤ k * (size + gap) := by
  have hnext : ((i : ℚ) + 1) * (size + gap) ≤ k * (size + gap) := by
    apply mul_le_mul_of_nonneg_right _ (by positivity)
    exact_mod_cast h
  linarith

/-- A later column begins where an earlier one has ended, or behind. -/
theorem Drawable.columnX_add_le (h : g.Drawable) {i k : Nat} (hlt : i < k) :
    g.columnX i + g.nodeWidth ≤ g.columnX k := by
  have hsteps := steps_apart h.nodeWidth h.horizontalGap hlt
  rw [columnX_eq, columnX_eq]
  linarith

theorem Drawable.rowY_add_le (h : g.Drawable) {i k : Nat} (hlt : i < k) :
    g.rowY i + g.nodeHeight ≤ g.rowY k :=
  steps_apart h.nodeHeight h.verticalGap hlt

/-- Rows go down, so the last one is the lowest. -/
theorem Drawable.rowY_mono (h : g.Drawable) {i k : Nat} (hle : i ≤ k) : g.rowY i ≤ g.rowY k := by
  rcases hle.eq_or_lt with rfl | hlt
  · exact le_refl _
  · have hrows := h.rowY_add_le hlt
    have hheight := h.nodeHeight
    linarith

/-! ## Stacks -/

/-- Nodes stand below each other in rows, the first one at the given place. -/
def IsStack (g : Geometry ℚ) (x top : ℚ) (nodes : List (FlowNode ℚ)) : Prop :=
  ∀ (row : Nat) n, nodes[row]? = some n → n.position = ⟨x, top + g.rowY row⟩

namespace IsStack

variable {x top : ℚ} {nodes : List (FlowNode ℚ)}

theorem position_eq (h : g.IsStack x top nodes) {row : Nat} (hrow : row < nodes.length) :
    nodes[row].position = ⟨x, top + g.rowY row⟩ :=
  h row _ (List.getElem?_eq_getElem hrow)

theorem position_x (h : g.IsStack x top nodes) (hn : n ∈ nodes) : n.position.x = x := by
  obtain ⟨row, hrow⟩ := List.getElem?_of_mem hn
  rw [h row n hrow]

/-- No two rows of a stack overlap. -/
theorem pairwise_apart (h : g.IsStack x top nodes) (hdraw : g.Drawable) :
    nodes.Pairwise g.Apart := by
  rw [List.pairwise_iff_getElem]
  intro i k hi hk hlt
  apply apart_of_above
  have hrows := hdraw.rowY_add_le hlt
  rw [h.position_eq hi, h.position_eq hk]
  linarith

/-- The distance from row to row is the same in every stack. -/
theorem isChain_distance (h : g.IsStack x top nodes) :
    nodes.IsChain fun above below =>
      below.position.y - above.position.y = g.nodeHeight + g.verticalGap := by
  rw [List.isChain_iff_getElem]
  intro row hrow
  rw [h.position_eq hrow, h.position_eq (Nat.lt_of_succ_lt hrow), rowY_eq, rowY_eq]
  push_cast
  ring

/-- What `centerY` computes from the number of rows is the middle of the stack. -/
theorem isMiddle (h : g.IsStack x top nodes) (hdraw : g.Drawable) (hnodes : nodes ≠ []) :
    g.IsMiddle nodes (top + g.centerY nodes.length) := by
  have hpos : 0 < nodes.length := List.length_pos_iff.mpr hnodes
  have hlast : nodes.length - 1 < nodes.length := Nat.sub_one_lt hpos.ne'
  refine ⟨top, top + g.rowY (nodes.length - 1) + g.nodeHeight, ⟨?_, ?_⟩, ⟨?_, ?_⟩, ?_⟩
  · -- the first row is at the top
    refine ⟨nodes[0], List.getElem_mem hpos, ?_⟩
    rw [h.position_eq hpos, rowY_zero, add_zero]
  · rintro _ ⟨n, hn, rfl⟩
    obtain ⟨row, hrow, rfl⟩ := List.getElem_of_mem hn
    have hbelow := hdraw.rowY_mono (Nat.zero_le row)
    rw [rowY_zero] at hbelow
    rw [h.position_eq hrow]
    linarith
  · -- and the last one at the bottom
    refine ⟨nodes[nodes.length - 1], List.getElem_mem hlast, ?_⟩
    rw [h.position_eq hlast]
  · rintro _ ⟨n, hn, rfl⟩
    obtain ⟨row, hrow, rfl⟩ := List.getElem_of_mem hn
    have habove := hdraw.rowY_mono (Nat.le_sub_one_of_lt hrow)
    rw [h.position_eq hrow]
    linarith
  · rw [centerY_eq, max_eq_left (Nat.one_le_iff_ne_zero.mpr hpos.ne')]
    ring

end IsStack

end Geometry

/-! ## Places -/

/-- The nodes of ids, as far as there are any. -/
def Graph.nodesOf {α : Type} (g : Graph α) (ids : List String) : List (FlowNode α) :=
  ids.filterMap g.node?

/-- As no two nodes have the same id, looking up the ids of nodes gives back these nodes. -/
theorem Graph.nodesOf_map_id {α : Type} {g : Graph α} (h : (g.nodes.map FlowNode.id).Nodup)
    {nodes : List (FlowNode α)} (hnodes : ∀ n ∈ nodes, n ∈ g.nodes) :
    g.nodesOf (nodes.map FlowNode.id) = nodes := by
  have hfound : ∀ n ∈ nodes, (g.node? ∘ FlowNode.id) n = some n := fun n hn =>
    (node?_eq_some_iff h).mpr ⟨hnodes n hn, rfl⟩
  rw [nodesOf, List.filterMap_map, List.filterMap_congr hfound, List.filterMap_some]

namespace Workflow

variable {w : Workflow} {g : Geometry ℚ}

/-- Where all ids are ids of jobs, no row is left out. -/
theorem columnNodes_eq {α : Type} [Coordinate α] {g : Geometry α} {column : Nat} {ids : List String}
    (h : ∀ id ∈ ids, id ∈ w.jobs.keys) :
    w.columnNodes g column ids = ids.mapIdx fun row id =>
      ⟨id, ⟨g.columnX column, g.rowY row⟩, jobData id ((w.jobs.get? id).getD default)⟩ := by
  have hrows : (ids.mapIdx fun row id => (w.jobs.get? id).map fun j =>
      (⟨id, ⟨g.columnX column, g.rowY row⟩, jobData id j⟩ : FlowNode α)) =
      (ids.mapIdx fun row id => ⟨id, ⟨g.columnX column, g.rowY row⟩,
        jobData id ((w.jobs.get? id).getD default)⟩).map some := by
    apply List.ext_getElem (by simp)
    intro row hrow _
    have hid := h _ (List.getElem_mem (by simpa using hrow : row < ids.length))
    obtain ⟨j, hj⟩ := Option.isSome_iff_exists.mp
      ((w.jobs.isSome_get? _).trans (KeyedList.contains_iff.mpr hid))
    simp [hj]
  rw [columnNodes, hrows, List.filterMap_map]
  exact List.filterMap_some ..

section Column

variable {index : Nat} {column : List String}

theorem mem_keys_of_mem_column (h : w.levels[index]? = some column) :
    ∀ id ∈ column, id ∈ w.jobs.keys :=
  fun _ hid => (column_sublist_keys (List.mem_of_getElem? h)).2.subset hid

/-- The nodes of a column are a stack at the top. -/
theorem isStack_columnNodes (h : w.levels[index]? = some column) :
    g.IsStack (g.columnX index) 0 (w.columnNodes g index column) := by
  intro row n hn
  rw [columnNodes_eq (mem_keys_of_mem_column h), List.getElem?_mapIdx, Option.map_eq_some_iff] at hn
  obtain ⟨id, _, rfl⟩ := hn
  rw [zero_add]

/-- The nodes of a column are found by the ids of its jobs, in their order. -/
theorem nodesOf_column {α : Type} [Coordinate α] (g : Geometry α)
    (h : w.levels[index]? = some column) :
    (w.columnNodes g index column).map FlowNode.id = column ∧
      (w.layout g).nodesOf column = w.columnNodes g index column := by
  have hids : (w.columnNodes g index column).map FlowNode.id = column := by
    rw [columnNodes_eq (mem_keys_of_mem_column h)]
    exact List.ext_getElem (by simp) (by simp)
  refine ⟨hids, ?_⟩
  conv_lhs => rw [← hids]
  apply Graph.nodesOf_map_id (w.nodup_map_id_nodes g)
  intro n hn
  apply (mem_jobNodes_iff.mp _).1
  rw [jobNodes, List.mem_flatten]
  refine ⟨_, List.mem_mapIdx.mpr ?_, hn⟩
  obtain ⟨hindex, rfl⟩ := List.getElem?_eq_some_iff.mp h
  exact ⟨index, hindex, rfl⟩

end Column

theorem exists_column_of_mem_jobNodes {n : FlowNode ℚ} (hn : n ∈ w.jobNodes g) :
    ∃ (index : Nat) (column : List String), w.levels[index]? = some column ∧
      n ∈ w.columnNodes g index column := by
  obtain ⟨_, hcolumn, hmem⟩ := List.mem_flatten.mp hn
  obtain ⟨index, hindex, rfl⟩ := List.mem_mapIdx.mp hcolumn
  exact ⟨index, _, List.getElem?_eq_getElem hindex, hmem⟩

/-- The triggers are a stack that is moved up or down until its middle is that of the first
column. -/
theorem isStack_triggerNodes (w : Workflow) (g : Geometry ℚ) :
    g.IsStack 0 (g.centerY (w.levels.headD []).length - g.centerY w.triggers.length)
      (w.triggerNodes g) := by
  intro row n hn
  rw [triggerNodes, List.getElem?_mapIdx, Option.map_eq_some_iff] at hn
  obtain ⟨data, _, rfl⟩ := hn
  rfl

/-! ## Well drawn -/

/-- The middle of a column of jobs, and of one row where there is no column. -/
def IsColumnMiddle (w : Workflow) (g : Geometry ℚ) (middle : ℚ) : Option (List String) → Prop
  | none => middle = g.nodeHeight / 2
  | some column => g.IsMiddle ((w.layout g).nodesOf column) middle

/-- A drawing in which nothing overlaps and everything is centered. -/
structure WellDrawn (w : Workflow) (g : Geometry ℚ) : Prop where
  /-- No two jobs overlap. -/
  jobs_apart : ((w.layout g).nodes.filter (·.data.isJob)).Pairwise g.Apart
  /-- No two triggers overlap. -/
  triggers_apart : ((w.layout g).nodes.filter (·.data.isTrigger)).Pairwise g.Apart
  /-- There is no column only where there is no job. -/
  levels_eq_nil_iff : w.levels = [] ↔ w.jobs.keys = []
  /-- All jobs of a column have nodes, at one distance from the left. -/
  column_aligned : ∀ column ∈ w.levels,
    ((w.layout g).nodesOf column).map FlowNode.id = column ∧
    ∃ x, ∀ n ∈ (w.layout g).nodesOf column, n.position.x = x
  /-- From one row to the next one it is the same distance. -/
  rows_even : ∀ column ∈ w.levels, ((w.layout g).nodesOf column).IsChain fun above below =>
    below.position.y - above.position.y = g.nodeHeight + g.verticalGap
  /-- There is a place for a further job. -/
  addJob_exists : ∃ a ∈ (w.layout g).nodes, a.data.isAddJob = true
  /-- A further job is placed behind all others. -/
  addJob_behind : ∀ a ∈ (w.layout g).nodes, a.data.isAddJob = true →
    ∀ n ∈ (w.layout g).nodes, n.data.isJob = true → n.position.x + g.nodeWidth ≤ a.position.x
  /-- The triggers have the same middle as the first column. -/
  triggers_centered : ∃ middle,
    g.IsMiddle ((w.layout g).nodes.filter (·.data.isTrigger)) middle ∧
    w.IsColumnMiddle g middle w.levels.head?
  /-- A further job has the same middle as the last column. -/
  addJob_centered : ∀ a ∈ (w.layout g).nodes, a.data.isAddJob = true →
    w.IsColumnMiddle g (a.position.y + g.addNodeSize / 2) w.levels.getLast?

/-- Jobs of one column are apart by their rows, and all others by their columns. -/
theorem pairwise_apart_jobNodes (w : Workflow) (h : g.Drawable) :
    (w.jobNodes g).Pairwise g.Apart := by
  rw [jobNodes, List.pairwise_flatten]
  constructor
  · -- within a column
    intro nodes hnodes
    obtain ⟨index, hindex, rfl⟩ := List.mem_mapIdx.mp hnodes
    exact (isStack_columnNodes (List.getElem?_eq_getElem hindex)).pairwise_apart h
  · -- from one column to a later one
    rw [List.pairwise_iff_getElem]
    intro i k hi hk hlt m hm n hn
    rw [List.getElem_mapIdx] at hm hn
    rw [List.length_mapIdx] at hi hk
    apply Geometry.apart_of_left
    rw [(isStack_columnNodes (List.getElem?_eq_getElem hi)).position_x hm,
      (isStack_columnNodes (List.getElem?_eq_getElem hk)).position_x hn]
    exact h.columnX_add_le hlt

/-- The center of as many rows as a column has jobs is its middle, and without a column it is that
of one row. -/
theorem isColumnMiddle_centerY (h : g.Drawable) {column : Option (List String)}
    (hcolumn : ∀ ids ∈ column, ids ∈ w.levels) :
    w.IsColumnMiddle g (g.centerY (column.getD []).length) column := by
  cases column with
  | none =>
    show g.centerY 0 = g.nodeHeight / 2
    rw [Geometry.centerY_eq, Nat.zero_max, Nat.sub_self, Geometry.rowY_zero, zero_add]
  | some ids =>
    obtain ⟨index, hindex⟩ := List.getElem?_of_mem (hcolumn ids rfl)
    obtain ⟨hids, hnodes⟩ := nodesOf_column g hindex
    have hlength : (w.columnNodes g index ids).length = ids.length := by
      rw [← List.length_map FlowNode.id, hids]
    have hne : w.columnNodes g index ids ≠ [] := by
      rw [← List.length_pos_iff, hlength, List.length_pos_iff]
      exact (column_sublist_keys (hcolumn ids rfl)).1
    have hmiddle := (isStack_columnNodes (g := g) hindex).isMiddle h hne
    rw [zero_add, hlength] at hmiddle
    show g.IsMiddle ((w.layout g).nodesOf ids) (g.centerY ids.length)
    rwa [hnodes]

/-- The move of the triggers puts their middle where that of the first column is. -/
theorem isMiddle_triggerNodes (w : Workflow) (h : g.Drawable) :
    g.IsMiddle (w.triggerNodes g) (g.centerY (w.levels.headD []).length) := by
  have hmiddle := (w.isStack_triggerNodes g).isMiddle h (w.triggerNodes_ne_nil g)
  -- no triggers take as much room as one
  have hrows : g.centerY (w.triggerNodes g).length = g.centerY w.triggers.length := by
    rw [length_triggerNodes, Geometry.centerY_eq, Geometry.centerY_eq, max_assoc, max_self]
  rwa [hrows, sub_add_cancel] at hmiddle

/-- **Nothing overlaps in a drawing, and everything is centered.** Where nodes have a size and gaps
are not negative, no two jobs overlap and no two triggers do. The jobs of a column stand at one
distance from the left, and from row to row it is the height of a node and a gap. The place of a
further job begins where all jobs have ended. The triggers have the same middle as the first column,
and a further job has that of the last one; without jobs it is the middle of one row. -/
theorem wellDrawn_layout (w : Workflow) (g : Geometry ℚ) (h : g.Drawable) : w.WellDrawn g := by
  obtain ⟨htriggers, hjobs, _⟩ := w.filter_nodes g
  refine ⟨?_, ?_, w.levels_eq_nil_iff, ?_, ?_, ?_, ?_, ?_, ?_⟩
  · exact hjobs ▸ w.pairwise_apart_jobNodes h
  · exact htriggers ▸ (w.isStack_triggerNodes g).pairwise_apart h
  · intro column hcolumn
    obtain ⟨index, hindex⟩ := List.getElem?_of_mem hcolumn
    obtain ⟨hids, hnodes⟩ := nodesOf_column g hindex
    rw [hnodes]
    exact ⟨hids, _, fun n hn => (isStack_columnNodes hindex).position_x hn⟩
  · intro column hcolumn
    obtain ⟨index, hindex⟩ := List.getElem?_of_mem hcolumn
    rw [(nodesOf_column g hindex).2]
    exact (isStack_columnNodes hindex).isChain_distance
  · exact ⟨w.addJobNode g, eq_addJobNode_iff.mp rfl⟩
  · intro a ha hadd n hn hjob
    rw [eq_addJobNode_iff.mpr ⟨ha, hadd⟩]
    -- the job is in some column, and no column lies further right than the last
    obtain ⟨index, column, hindex, hmem⟩ := exists_column_of_mem_jobNodes
      (mem_jobNodes_iff.mpr ⟨hn, hjob⟩)
    rw [(isStack_columnNodes hindex).position_x hmem]
    exact h.columnX_add_le (List.getElem?_eq_some_iff.mp hindex).1
  · refine ⟨_, htriggers ▸ w.isMiddle_triggerNodes h, ?_⟩
    rw [List.headD_eq_head?_getD]
    exact isColumnMiddle_centerY h fun _ hfirst => List.mem_of_head? hfirst
  · intro a ha hadd
    rw [eq_addJobNode_iff.mpr ⟨ha, hadd⟩]
    -- the position of the append node has half its size taken off already
    have hmiddle : (w.addJobNode g).position.y + g.addNodeSize / 2 =
        g.centerY (w.levels.getLast?.getD []).length := by
      rw [← List.getLastD_eq_getLast?]
      exact sub_add_cancel _ _
    rw [hmiddle]
    exact isColumnMiddle_centerY h fun _ hlast => List.mem_of_getLast? hlast

/-- Three triggers, and a job that two others need. -/
def fork : Workflow :=
  { on := .list [.event "push", .event "create", .event "release"]
    jobs := .ofList [("a", {}), ("b", { needs := some (.one "a") }),
      ("c", { needs := some (.one "a") })] }

/-- Three triggers before a single job, so that the first of them stands above it. -/
theorem wellDrawn_layout_fork :
    (Geometry.standard.map Nat.cast : Geometry ℚ).Drawable ∧
    (fork.layout (Geometry.standard.map Nat.cast : Geometry ℚ)).nodes.map
      (fun n => (n.id, n.position.x, n.position.y)) =
        [("trigger:0", 0, -140), ("trigger:1", 0, 0), ("trigger:2", 0, 140), ("a", 280, 0),
          ("b", 560, 0), ("c", 560, 140), ("add-job:", 840, 90)] ∧
    fork.WellDrawn (Geometry.standard.map Nat.cast) := by
  have hdraw : (Geometry.standard.map Nat.cast : Geometry ℚ).Drawable := by
    constructor <;> decide +kernel
  exact ⟨hdraw, by decide +kernel, wellDrawn_layout fork _ hdraw⟩

end Workflow

end CiWorkflow
