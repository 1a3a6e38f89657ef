import CiWorkflow.Proofs.LayoutEdges
/-!
# The Ids of Edges

The id of an edge is made of the ids of its ends, with an arrow between them. No two edges have the
same ends, but the ends cannot always be told from the id: where ids of jobs have arrows in them,
one text can be read with an earlier or with a later arrow as the one that was put between the ends.

This complements `LayoutNodes`, where ids are made to differ whatever the ids of the jobs are. The
ids of edges differ just as long as no two edges are two readings of one text.

## Layers

- **Readings of a text**: edges have the same id if they are the same, or two readings of it.
- **Ends with arrows** are jobs.
- **All edges** of a layout.
-/

namespace CiWorkflow

/-! ## Readings of a text -/

/-- A name has an arrow in it. -/
def HasArrow (name : String) : Prop := ∃ before after, name = before ++ "->" ++ after

/-- The target of the first edge has an arrow in it, and the second edge joins the same text at this
arrow instead. -/
def FlowEdge.Shifts (e f : FlowEdge) : Prop :=
  ∃ mid, e.target = mid ++ "->" ++ f.target ∧ f.source = e.source ++ "->" ++ mid

theorem HasArrow.mem {name : String} (h : HasArrow name) : '>' ∈ name.toList := by
  obtain ⟨before, after, rfl⟩ := h
  simp

/-- Two arrows in one text never overlap, for a tip is no shaft. -/
theorem arrow_eq_append {b d mid : List Char} (h : '-' :: '>' :: b = mid ++ '-' :: '>' :: d) :
    (mid = [] ∧ b = d) ∨ ∃ rest, mid = '-' :: '>' :: rest ∧ b = rest ++ '-' :: '>' :: d := by
  -- the two arrows are the same, or they do not overlap
  match mid, h with
  | [], h =>
    left
    simpa using h
  | [_], h =>
    -- half an arrow would have to be followed by its other half, and is by a whole one
    simp at h
  | _ :: _ :: rest, h =>
    right
    simp only [List.cons_append, List.cons.injEq] at h
    obtain ⟨rfl, rfl, h⟩ := h
    exact ⟨rest, rfl, h⟩

/-- A text with two readings has two arrows in it: one end of each reading holds the arrow of the
other. -/
theorem arrow_split {a b c d : List Char} (h : a ++ '-' :: '>' :: b = c ++ '-' :: '>' :: d) :
    (a = c ∧ b = d) ∨ (∃ mid, b = mid ++ '-' :: '>' :: d ∧ c = a ++ '-' :: '>' :: mid) ∨
      ∃ mid, d = mid ++ '-' :: '>' :: b ∧ a = c ++ '-' :: '>' :: mid := by
  -- by which of the two arrows comes first
  rcases List.append_eq_append_iff.mp h with ⟨mid, hc, hb⟩ | ⟨mid, ha, hd⟩
  · rcases arrow_eq_append hb with ⟨rfl, rfl⟩ | ⟨rest, rfl, rfl⟩
    · exact .inl ⟨(List.append_nil a ▸ hc).symm, rfl⟩
    · exact .inr (.inl ⟨rest, rfl, hc⟩)
  · rcases arrow_eq_append hd with ⟨rfl, rfl⟩ | ⟨rest, rfl, rfl⟩
    · exact .inl ⟨List.append_nil c ▸ ha, rfl⟩
    · exact .inr (.inr ⟨rest, rfl, ha⟩)

namespace FlowEdge

variable {e f : FlowEdge}

theorem toList_id (e : FlowEdge) :
    e.id.toList = e.source.toList ++ '-' :: '>' :: e.target.toList := by
  simp [FlowEdge.id]

/-- The relation of two readings, told by characters. -/
theorem shifts_of_toList {mid : List Char}
    (htarget : e.target.toList = mid ++ '-' :: '>' :: f.target.toList)
    (hsource : f.source.toList = e.source.toList ++ '-' :: '>' :: mid) : e.Shifts f := by
  refine ⟨String.ofList mid, String.toList_injective ?_, String.toList_injective ?_⟩
  · simp [htarget]
  · simp [hsource]

/-- Two readings of one text are written alike. -/
theorem Shifts.id_eq (h : e.Shifts f) : e.id = f.id := by
  obtain ⟨mid, htarget, hsource⟩ := h
  simp only [FlowEdge.id, htarget, hsource, String.append_assoc]

theorem Shifts.ne (h : e.Shifts f) : e ≠ f := by
  rintro rfl
  obtain ⟨mid, _, hsource⟩ := h
  -- the source would be longer than it is
  have hlength := congrArg String.length hsource
  simp only [String.length_append] at hlength
  have harrow : "->".length = 2 := rfl
  omega

/-- The id of an edge leaves open at which of its arrows it was joined, and nothing else. -/
theorem id_eq_id_iff : e.id = f.id ↔ e = f ∨ e.Shifts f ∨ f.Shifts e := by
  constructor
  · intro h
    have hchars := congrArg String.toList h
    rw [toList_id, toList_id] at hchars
    -- the two ids are cut at the same arrow, or one of them at a later one
    rcases arrow_split hchars with ⟨hsource, htarget⟩ | ⟨mid, htarget, hsource⟩ |
      ⟨mid, htarget, hsource⟩
    · left
      cases e
      cases f
      cases String.toList_injective hsource
      cases String.toList_injective htarget
      rfl
    · exact .inr (.inl (shifts_of_toList htarget hsource))
    · exact .inr (.inr (shifts_of_toList htarget hsource))
  · rintro (rfl | h | h)
    · rfl
    · exact h.id_eq
    · exact h.id_eq.symm

end FlowEdge

namespace Workflow

/-! ## Ends with arrows -/

/-- Colons bring no arrow into a name. -/
theorem not_hasArrow_syntheticId (w : Workflow) {name : String} (h : '>' ∉ name.toList) :
    ¬HasArrow (w.syntheticId name) := by
  intro harrow
  obtain ⟨count, hname⟩ := w.exists_syntheticId_eq name
  have hmem := harrow.mem
  rw [hname, withColons, String.toList_append, String.toList_ofList, List.mem_append] at hmem
  rcases hmem with hmem | hcolon
  · exact h hmem
  · exact absurd (List.eq_of_mem_replicate hcolon) (by decide)

theorem not_hasArrow_triggerId (w : Workflow) (index : Nat) : ¬HasArrow (w.triggerId index) := by
  apply not_hasArrow_syntheticId
  rw [String.toList_append, List.mem_append, not_or]
  exact ⟨by decide, not_mem_toString rfl index⟩

theorem not_hasArrow_addJobId (w : Workflow) : ¬HasArrow w.addJobId :=
  w.not_hasArrow_syntheticId (by decide)

variable {w : Workflow} {e : FlowEdge}

/-- Where an edge leaves an id with an arrow, it leaves a job. -/
theorem source_mem_keys_of_hasArrow (he : e ∈ w.edges) (h : HasArrow e.source) :
    e.source ∈ w.jobs.keys := by
  rw [edges_eq, List.mem_append, List.mem_append] at he
  rcases he with (hneed | hentry) | happend
  · obtain ⟨_, _, _, hsource⟩ := mem_dependencyEdges.mp hneed
    exact hsource
  · obtain ⟨index, _, htrigger⟩ := List.mem_map.mp (mem_entryEdges.mp hentry).1
    exact absurd (htrigger ▸ h) (w.not_hasArrow_triggerId index)
  · exact w.getLastD_levels_sublist.subset (mem_appendEdges.mp happend).1

theorem target_mem_keys_of_hasArrow (he : e ∈ w.edges) (h : HasArrow e.target) :
    e.target ∈ w.jobs.keys := by
  rw [edges_eq, List.mem_append] at he
  rcases he with hjob | happend
  · exact target_mem_keys hjob
  · exact absurd ((mem_appendEdges.mp happend).2 ▸ h) w.not_hasArrow_addJobId

/-! ## All edges -/

/-- Since no edge stands twice, two equal ids are two readings. -/
theorem nodup_map_id_edges_iff :
    (w.edges.map FlowEdge.id).Nodup ↔ ∀ e ∈ w.edges, ∀ f ∈ w.edges, ¬e.Shifts f := by
  rw [List.nodup_map_iff_inj_on w.nodup_edges]
  constructor
  · intro h e he f hf hshifts
    exact hshifts.ne (h e he f hf hshifts.id_eq)
  · intro h e he f hf hid
    rcases FlowEdge.id_eq_id_iff.mp hid with heq | hshifts | hshifts
    · exact heq
    · exact absurd hshifts (h e he f hf)
    · exact absurd hshifts (h f hf e he)

variable {α : Type} [Coordinate α]

/-- **When the ids of edges differ.** The ids of all edges of a layout are different exactly where
no two of them join the same text at different arrows. If two do, then the end of each that has an
arrow in it is a job, never a trigger or the place of a further job. So the ids are different
wherever no id of a job has an arrow in it. -/
theorem edgeIds_nodup_iff (w : Workflow) (g : Geometry α) :
    (((w.layout g).edges.map FlowEdge.id).Nodup ↔
      ∀ e ∈ (w.layout g).edges, ∀ f ∈ (w.layout g).edges, ¬e.Shifts f) ∧
    (∀ e ∈ (w.layout g).edges, ∀ f ∈ (w.layout g).edges, e.Shifts f →
      e.target ∈ w.jobs.keys ∧ HasArrow e.target ∧ f.source ∈ w.jobs.keys ∧ HasArrow f.source) ∧
    ((∀ id ∈ w.jobs.keys, ¬HasArrow id) → ((w.layout g).edges.map FlowEdge.id).Nodup) := by
  have hends : ∀ e ∈ w.edges, ∀ f ∈ w.edges, e.Shifts f →
      e.target ∈ w.jobs.keys ∧ HasArrow e.target ∧ f.source ∈ w.jobs.keys ∧ HasArrow f.source := by
    rintro e he f hf ⟨mid, htarget, hsource⟩
    have hentered : HasArrow e.target := ⟨mid, f.target, htarget⟩
    have hleft : HasArrow f.source := ⟨e.source, mid, hsource⟩
    exact ⟨target_mem_keys_of_hasArrow he hentered, hentered,
      source_mem_keys_of_hasArrow hf hleft, hleft⟩
  refine ⟨nodup_map_id_edges_iff, hends, fun hnone => ?_⟩
  apply nodup_map_id_edges_iff.mpr
  intro e he f hf hshifts
  obtain ⟨hjob, harrow, _⟩ := hends e he f hf hshifts
  exact hnone e.target hjob harrow

/-- Two needs, and in each of them one of the jobs has an arrow in its id. -/
def arrows : Workflow :=
  { on := .event "push"
    jobs := .ofList [("a", { steps := [.ofCommand "x"] }),
      ("a->b", { steps := [.ofCommand "x"] }),
      ("b->c", { needs := some (.one "a"), steps := [.ofCommand "x"] }),
      ("c", { needs := some (.one "a->b"), steps := [.ofCommand "x"] })] }

/-- Two edges with the same id, in a layout of jobs about which there is nothing to report. -/
theorem edgeIds_not_nodup_arrows :
    arrows.lint = [] ∧
    ⟨"a", "b->c"⟩ ∈ (arrows.layout (Geometry.standard.map Float.ofNat)).edges ∧
    ⟨"a->b", "c"⟩ ∈ (arrows.layout (Geometry.standard.map Float.ofNat)).edges ∧
    FlowEdge.id ⟨"a", "b->c"⟩ = FlowEdge.id ⟨"a->b", "c"⟩ ∧
    ¬((arrows.layout (Geometry.standard.map Float.ofNat)).edges.map FlowEdge.id).Nodup := by
  have hedges : arrows.edges = [⟨"a", "b->c"⟩, ⟨"a->b", "c"⟩, ⟨"trigger:0", "a"⟩,
      ⟨"trigger:0", "a->b"⟩, ⟨"b->c", "add-job:"⟩, ⟨"c", "add-job:"⟩] := by
    decide +kernel
  refine ⟨by decide +kernel, ?_, ?_, rfl, ?_⟩
  · show _ ∈ arrows.edges
    simp [hedges]
  · show _ ∈ arrows.edges
    simp [hedges]
  · show ¬(arrows.edges.map FlowEdge.id).Nodup
    rw [hedges]
    decide

end Workflow

end CiWorkflow
