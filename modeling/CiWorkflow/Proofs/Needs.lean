import CiWorkflow.Workflow
import Mathlib.Data.Fintype.EquivFin
import Mathlib.Logic.Relation
import Mathlib.Order.WellFounded
/-!
# The Needs of Jobs as a Graph

There is an edge from a job to every id among its needs, be it the id of a job or not. An id of no
job has no edges, so every cycle runs through jobs alone.

The search for cycles and the levels of the layout both walk along this graph, from one job at a
time and in the order of the jobs. What they find is stated in terms of paths and cycles here, which
know of no order.

Once a search was at an id it never goes on from there again. Its ways are the paths that end at the
first such id, and these lie in the graph where none of these ids has an edge.

An edit of one job gives other targets to one id, which matters only to paths that go on from it.
-/

namespace CiWorkflow

open Relation

/-! ## Graphs of ids -/

/-- An edge of the graph in which every id has a list of targets. -/
def Edge (needs : String → List String) (a b : String) : Prop := b ∈ needs a

/-- A path along edges, which may have no edge at all. -/
abbrev Reaches (needs : String → List String) : String → String → Prop :=
  ReflTransGen (Edge needs)

/-- A path along one edge or more. -/
abbrev Precedes (needs : String → List String) : String → String → Prop :=
  TransGen (Edge needs)

/-- An id lies on a directed cycle. -/
def OnCycle (needs : String → List String) (id : String) : Prop := Precedes needs id id

/-- An id from which a cycle starts has a target. -/
theorem OnCycle.needs_ne_nil {needs : String → List String} {id : String}
    (h : OnCycle needs id) : needs id ≠ [] := by
  obtain ⟨next, hedge, _⟩ := TransGen.head'_iff.mp h
  exact List.ne_nil_of_mem hedge

/-- Every id on the way of a cycle lies on the cycle too. -/
theorem OnCycle.exists_edge {needs : String → List String} {id : String}
    (h : OnCycle needs id) : ∃ next, Edge needs id next ∧ Reaches needs next id ∧
      OnCycle needs next := by
  obtain ⟨next, hedge, hback⟩ := TransGen.head'_iff.mp h
  exact ⟨next, hedge, hback, TransGen.tail' hback hedge⟩

/-- A path leads from an id to a cycle. -/
def LeadsToCycle (needs : String → List String) (id : String) : Prop :=
  ∃ v, Reaches needs id v ∧ OnCycle needs v

/-- With more edges there are more ways to a cycle. -/
theorem LeadsToCycle.mono {needs needs' : String → List String}
    (hedge : ∀ a b, Edge needs a b → Edge needs' a b) {id : String}
    (h : LeadsToCycle needs id) : LeadsToCycle needs' id := by
  obtain ⟨v, hreach, hcycle⟩ := h
  exact ⟨v, ReflTransGen.mono hedge id v hreach, TransGen.mono hedge v v hcycle⟩

/-- The graph without the edges to some ids. -/
def without (ids : List String) (needs : String → List String) (id : String) : List String :=
  (needs id).filter fun need => !ids.contains need

theorem mem_without {needs : String → List String} {ids : List String} {id need : String} :
    need ∈ without ids needs id ↔ need ∈ needs id ∧ need ∉ ids := by
  simp [without]

/-- A path to a cycle that keeps away from some ids is one to a cycle. -/
theorem LeadsToCycle.of_without {needs : String → List String} {ids : List String} {id : String}
    (h : LeadsToCycle (without ids needs) id) : LeadsToCycle needs id :=
  h.mono fun _ _ hedge => (mem_without.mp hedge).1

/-- One of some ids comes behind another one. -/
def Behind (needs : String → List String) (ids : List String) (b a : {id // id ∈ ids}) : Prop :=
  Precedes needs a.1 b.1

/-- Among ids of which each leads to another one of them, some lie on a cycle. -/
theorem exists_onCycle_of_closed {needs : String → List String} {ids : List String} (hne : ids ≠ [])
    (hclosed : ∀ id ∈ ids, ∃ next ∈ ids, Edge needs id next) : ∃ id ∈ ids, OnCycle needs id := by
  by_contra hnone
  push Not at hnone
  obtain ⟨first, hfirst⟩ := List.exists_mem_of_ne_nil _ hne
  -- without cycles some id has none behind it, since there are but finitely many
  have : IsTrans _ (Behind needs ids) := ⟨fun _ _ _ hab hbc => TransGen.trans hbc hab⟩
  have : Std.Irrefl (Behind needs ids) := ⟨fun id => hnone id.1 id.2⟩
  have hwf : WellFounded (Behind needs ids) := Finite.wellFounded_of_trans_of_irrefl _
  obtain ⟨last, _, hlast⟩ := hwf.has_min Set.univ ⟨⟨first, hfirst⟩, trivial⟩
  obtain ⟨next, hnext, hedge⟩ := hclosed last.1 last.2
  exact hlast ⟨next, hnext⟩ trivial (.single hedge)

/-! ## Paths that end at some ids -/

/-- The graph without the edges from some ids, where every path ends at the first of them. -/
def endingAt (ids : List String) (needs : String → List String) (id : String) : List String :=
  if ids.contains id then [] else needs id

section EndingAt

variable {needs : String → List String} {ids others : List String} {id v : String}

theorem mem_endingAt {need : String} :
    need ∈ endingAt ids needs id ↔ need ∈ needs id ∧ id ∉ ids := by
  unfold endingAt
  split <;> simp_all

/-- With fewer ids to end at there are more edges. -/
theorem edge_endingAt_mono (hsub : ids ⊆ others) (a b : String)
    (hedge : Edge (endingAt others needs) a b) : Edge (endingAt ids needs) a b := by
  obtain ⟨hneed, hnot⟩ := mem_endingAt.mp hedge
  exact mem_endingAt.mpr ⟨hneed, fun hmem => hnot (hsub hmem)⟩

theorem Reaches.endingAt_mono (h : Reaches (endingAt others needs) id v) (hsub : ids ⊆ others) :
    Reaches (endingAt ids needs) id v :=
  ReflTransGen.mono (edge_endingAt_mono hsub) id v h

theorem OnCycle.endingAt_mono (h : OnCycle (endingAt others needs) v) (hsub : ids ⊆ others) :
    OnCycle (endingAt ids needs) v :=
  TransGen.mono (edge_endingAt_mono hsub) v v h

/-- Paths that end early are paths. -/
theorem Reaches.of_endingAt (h : Reaches (endingAt ids needs) id v) : Reaches needs id v :=
  ReflTransGen.mono (fun _ _ hedge => (mem_endingAt.mp hedge).1) id v h

/-- No cycle comes upon an id at which paths end. -/
theorem OnCycle.not_mem_of_endingAt (h : OnCycle (endingAt ids needs) v) : v ∉ ids := by
  obtain ⟨next, hedge, _⟩ := h.exists_edge
  exact (mem_endingAt.mp hedge).2

/-- A path to another id does not begin at an id at which paths end. -/
theorem Reaches.not_mem_of_endingAt (h : Reaches (endingAt ids needs) id v) (hv : v ∉ ids) :
    id ∉ ids := by
  rcases h.cases_head with rfl | ⟨next, hedge, _⟩
  · exact hv
  · exact (mem_endingAt.mp hedge).2

/-- On the way to another id a path keeps away from all ids at which it would end. -/
theorem Reaches.without_of_endingAt (h : Reaches (endingAt ids needs) id v) (hv : v ∉ ids) :
    Reaches (without ids needs) id v := by
  induction h using ReflTransGen.head_induction_on with
  | refl => exact .refl
  | head hedge hrest ih =>
    have hnext := Reaches.not_mem_of_endingAt hrest hv
    exact .head (mem_without.mpr ⟨(mem_endingAt.mp hedge).1, hnext⟩) ih

/-- A path to a cycle, where paths end at some ids, keeps away from all of them. -/
theorem LeadsToCycle.without_of_endingAt (h : LeadsToCycle (endingAt ids needs) id) :
    LeadsToCycle (without ids needs) id := by
  obtain ⟨v, hpath, hcycle⟩ := h
  obtain ⟨next, hedge, hback, hnext⟩ := hcycle.exists_edge
  have hfirst : Edge (without ids needs) v next :=
    mem_without.mpr ⟨(mem_endingAt.mp hedge).1, hnext.not_mem_of_endingAt⟩
  exact ⟨v, hpath.without_of_endingAt hcycle.not_mem_of_endingAt,
    .head' hfirst (hback.without_of_endingAt hcycle.not_mem_of_endingAt)⟩

end EndingAt

/-! ## Other targets of one id -/

/-- In two graphs all ids have the same targets, except perhaps one of them. -/
def SameExcept (id : String) (needs needs' : String → List String) : Prop :=
  ∀ other, other ≠ id → needs' other = needs other

section SameExcept

variable {id : String} {needs needs' : String → List String}

theorem SameExcept.symm (h : SameExcept id needs needs') : SameExcept id needs' needs :=
  fun other hother => (h other hother).symm

theorem SameExcept.edge (h : SameExcept id needs needs') {a b : String} (ha : a ≠ id)
    (hedge : Edge needs a b) : Edge needs' a b := by
  rwa [Edge, h a ha]

/-- Paths to the id are in both graphs. -/
theorem SameExcept.reaches (h : SameExcept id needs needs') {a : String}
    (hpath : Reaches needs a id) : Reaches needs' a id := by
  induction hpath using ReflTransGen.head_induction_on with
  | refl => exact .refl
  | @head a next hedge _ ih =>
    -- a path that has come to the id need not go on, so that its targets do not matter
    rcases Classical.em (a = id) with rfl | ha
    · exact .refl
    · exact .head (h.edge ha hedge) ih

/-- The id is on a cycle where one of its new targets led to it by the old edges. -/
theorem SameExcept.onCycle_iff (h : SameExcept id needs needs') :
    OnCycle needs' id ↔ ∃ target ∈ needs' id, Reaches needs target id := by
  constructor
  · intro hcycle
    obtain ⟨target, hedge, hback⟩ := TransGen.head'_iff.mp hcycle
    exact ⟨target, hedge, h.symm.reaches hback⟩
  · rintro ⟨target, hedge, hback⟩
    exact .head' hedge (h.reaches hback)

/-- A path in the new graph is an old one, or it runs through the id. -/
theorem SameExcept.precedes_or (h : SameExcept id needs needs') {a b : String}
    (hpath : Precedes needs' a b) :
    Precedes needs a b ∨ Reaches needs' a id ∧ Precedes needs' id b := by
  -- along the path: an edge is an old one unless it leaves the id
  induction hpath with
  | @single b hedge =>
    rcases Classical.em (a = id) with rfl | ha
    · exact .inr ⟨.refl, .single hedge⟩
    · exact .inl (.single (h.symm.edge ha hedge))
  | @tail mid b hpath hedge ih =>
    rcases Classical.em (mid = id) with rfl | hmid
    · exact .inr ⟨hpath.to_reflTransGen, .single hedge⟩
    · rcases ih with hold | ⟨hto, hfrom⟩
      · exact .inl (hold.tail (h.symm.edge hmid hedge))
      · exact .inr ⟨hto, hfrom.tail hedge⟩

/-- Every new cycle runs through the id. -/
theorem SameExcept.onCycle_or (h : SameExcept id needs needs') {v : String}
    (hcycle : OnCycle needs' v) : OnCycle needs v ∨ OnCycle needs' id := by
  rcases h.precedes_or hcycle with hold | ⟨hto, hfrom⟩
  · exact .inl hold
  · exact .inr (TransGen.trans_left hfrom hto)

/-- Where cycles are new, one of the new targets leads to the id. -/
theorem SameExcept.exists_onCycle (h : SameExcept id needs needs') {v : String}
    (hcycle : OnCycle needs' v) :
    (∃ v, OnCycle needs v) ∨ ∃ target ∈ needs' id, Reaches needs target id := by
  rw [← h.onCycle_iff]
  exact (h.onCycle_or hcycle).imp_left fun hold => ⟨v, hold⟩

end SameExcept

/-! ## The graph of a job map -/

/-- The ids that a job of a map lists; an id of no job lists nothing. -/
def needsIn (jobs : KeyedList Job) (id : String) : List String :=
  ((jobs.get? id).map Job.needsList).getD []

/-- A job lists an id among its needs. -/
abbrev Requires (jobs : KeyedList Job) : String → String → Prop := Edge (needsIn jobs)

theorem requires_iff {jobs : KeyedList Job} {id need : String} :
    Requires jobs id need ↔ ∃ job, jobs.get? id = some job ∧ need ∈ job.needsList := by
  unfold Requires Edge needsIn
  cases jobs.get? id <;> simp

/-- Only jobs need something. -/
theorem Requires.mem_keys {jobs : KeyedList Job} {id need : String} (h : Requires jobs id need) :
    id ∈ jobs.keys := by
  obtain ⟨job, hjob, _⟩ := requires_iff.mp h
  rcases Classical.em (id ∈ jobs.keys) with hmem | hnot
  · exact hmem
  · rw [KeyedList.get?_eq_none_iff.mpr hnot] at hjob
    cases hjob

theorem mem_keys_of_needsIn_ne_nil {jobs : KeyedList Job} {id : String}
    (h : needsIn jobs id ≠ []) : id ∈ jobs.keys := by
  obtain ⟨need, hneed⟩ := List.exists_mem_of_ne_nil _ h
  exact Requires.mem_keys hneed

theorem LeadsToCycle.mem_keys {jobs : KeyedList Job} {id : String}
    (h : LeadsToCycle (needsIn jobs) id) : id ∈ jobs.keys := by
  obtain ⟨v, hreach, hcycle⟩ := h
  rcases hreach.cases_head with rfl | ⟨next, hedge, _⟩
  · exact mem_keys_of_needsIn_ne_nil hcycle.needs_ne_nil
  · exact Requires.mem_keys hedge

/-- The needs of the jobs of a map have a directed cycle. -/
def Cyclic (jobs : KeyedList Job) : Prop := ∃ id, OnCycle (needsIn jobs) id

/-- The order of the jobs has no part in what they need. -/
theorem needsIn_of_perm {jobs other : KeyedList Job} (h : jobs.entries.Perm other.entries) :
    needsIn jobs = needsIn other := by
  funext id
  have hget : jobs.get? id = other.get? id := by
    apply Option.ext
    intro job
    rw [KeyedList.get?_eq_some_iff, KeyedList.get?_eq_some_iff, h.mem_iff]
  unfold needsIn
  rw [hget]

/-- Whether there is a cycle does not depend on the order of the jobs. -/
theorem cyclic_iff_of_perm {jobs other : KeyedList Job} (h : jobs.entries.Perm other.entries) :
    Cyclic jobs ↔ Cyclic other := by
  unfold Cyclic
  rw [needsIn_of_perm h]

/-! ## Sound needs -/

/-- The needs of a workflow name jobs only, and have no cycle. -/
structure Workflow.SoundNeeds (w : Workflow) : Prop where
  /-- What a job needs is a job. -/
  exist : ∀ id need, Requires w.jobs id need → need ∈ w.jobs.keys
  /-- No job needs itself, be it through others. -/
  acyclic : ¬Cyclic w.jobs

end CiWorkflow
