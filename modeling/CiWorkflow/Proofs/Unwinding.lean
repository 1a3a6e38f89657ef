import CiWorkflow.Proofs.CycleSearch
/-!
# How a Search Unwinds

All searches share the jobs that were visited and the jobs that are being searched, and one that
finds something leaves out the needs that come next. So what a search does depends on the state in
which it begins: it goes on only from jobs that were not visited, and never looks behind the others.

This complements `CycleSearch`, which follows the check of all jobs, where every search begins while
nothing is being searched. Here a search begins in the midst of others, in any state at all.

## Layers

- **Searches end** with one result, which is the same under every bound that is large enough.
- **Behind a job that is cleared** all paths of unvisited jobs stay among the jobs visited now, and
  come neither back to what is being searched nor to a cycle.
- **The state afterwards**: what is being searched is the same, and it is known what was visited.
-/

namespace CiWorkflow.Lint

open Relation

variable {needs : String → List String}

/-! ## Searches end -/

/-- The relation and the function come to the same end, from any state. -/
theorem walk_iff_hasCycle {jobs : KeyedList Job} {id : String} {s s' : Search} {found : Bool} :
    Walk (needsIn jobs) [id] s found s' ↔
      found = (Search.hasCycle jobs id s).1 ∧ s' = (Search.hasCycle jobs id s).2 := by
  have hrun := walk_hasCycle jobs id s
  constructor
  · exact fun h => h.unique hrun
  · rintro ⟨rfl, rfl⟩
    exact hrun

/-- A search gets no deeper than there are jobs left to visit, and two. -/
theorem visit_eq_hasCycle {jobs : KeyedList Job} {id : String} {s : Search} {depth : Nat}
    (hdepth : (s.unvisited jobs.keys).length + 2 ≤ depth) :
    Search.visit (needsIn jobs) depth id s = Search.hasCycle jobs id s := by
  have hrun := walk_visit jobs.keys (fun _ => mem_keys_of_needsIn_ne_nil) depth id s hdepth
  obtain ⟨hfound, hstate⟩ := walk_iff_hasCycle.mp hrun
  exact Prod.ext hfound hstate

/-! ## Behind a job that is cleared -/

/-- A path that goes on from unvisited jobs stays among the jobs visited now, and does not come back
to a job that is being searched. -/
theorem Walk.mem_visited_of_endingAt {ids : List String} {s s' : Search}
    (h : Walk needs ids s false s') {id v : String} (hid : id ∈ ids)
    (hpath : Reaches (endingAt s.visited needs) id v) : v ∈ s'.visited ∧ v ∉ s.stack := by
  induction hpath with
  | refl => exact h.mem_visited_of_cleared rfl hid
  | @tail mid next _ hedge ih =>
    -- the path goes on from a job that this very search visited, so all its needs are closed
    obtain ⟨hneed, hnew⟩ := mem_endingAt.mp hedge
    exact (h.cleared_of_not_found rfl).closed mid ih.1 hnew next hneed

/-- No cycle goes through an id that a search without result has added. -/
theorem Search.Cleared.not_onCycle {s s' : Search} (h : Search.Cleared needs s s') {v : String}
    (hv : v ∈ s'.visited) : ¬OnCycle (endingAt s.visited needs) v := by
  intro hcycle
  have hnew : v ∉ s.visited := hcycle.not_mem_of_endingAt
  -- chains of unvisited needs end behind the job, so they do where visited jobs need nothing
  have hacc : Acc (NeedsUncovered (endingAt s.visited needs) (· ∈ s.visited)) v :=
    Subrelation.accessible (fun hstep => ⟨(mem_endingAt.mp hstep.1).1, hstep.2⟩)
      (h.grounded v hv hnew)
  have hsettled : Settled (endingAt s.visited needs) (· ∈ s.visited) v := .inr hacc
  refine hnew (hsettled.covered_of_onCycle (fun id next hid hreach => ?_) hcycle)
  exact Classical.byContradiction fun hnext => hreach.not_mem_of_endingAt hnext hid

/-! ## The state afterwards -/

/-- What a search from a job leaves behind. Paths go on only from jobs that were not visited when it
began, so that cycles have no other jobs. -/
structure Search.Unwinds (needs : String → List String) (id : String) (s : Search) (found : Bool)
    (s' : Search) : Prop where
  /-- The jobs that are being searched are those from before, whatever was found. -/
  stack_eq : s'.stack = s.stack
  /-- What was visited stays visited. -/
  kept : s.visited ⊆ s'.visited
  /-- Besides, there is only what the job leads to. -/
  reached : ∀ v ∈ s'.visited, v ∈ s.visited ∨ Reaches (endingAt s.visited needs) id v
  /-- All of this is visited where nothing is found. -/
  covered : found = false → ∀ v, Reaches (endingAt s.visited needs) id v → v ∈ s'.visited
  /-- Nothing is found exactly where no path leads back to a job that is being searched, nor to a
  cycle. -/
  cleared_iff : found = false ↔
    (∀ v, Reaches (endingAt s.visited needs) id v → v ∉ s.stack) ∧
      ¬LeadsToCycle (endingAt s.visited needs) id

/-- A search finds nothing exactly where no path that keeps away from visited ids meets the stack or
a cycle. -/
theorem Walk.found_eq_false_iff {id : String} {s s' : Search} {found : Bool}
    (h : Walk needs [id] s found s') : found = false ↔
      (∀ v, Reaches (endingAt s.visited needs) id v → v ∉ s.stack) ∧
        ¬LeadsToCycle (endingAt s.visited needs) id := by
  constructor
  · rintro rfl
    -- all that such paths lead to is visited and off the stack, and no cycle goes through it
    refine ⟨fun v hpath => (h.mem_visited_of_endingAt (List.mem_cons_self ..) hpath).2, ?_⟩
    rintro ⟨v, hpath, hcycle⟩
    have hv := (h.mem_visited_of_endingAt (List.mem_cons_self ..) hpath).1
    exact (h.cleared_of_not_found rfl).not_onCycle hv hcycle
  · -- whatever is found shows a path of one of the two kinds
    rintro ⟨hstack, hcycle⟩
    refine Bool.eq_false_iff.mpr fun hfound => ?_
    obtain ⟨other, hother, v, hpath, hend⟩ := h.exists_endingAt_of_found hfound
    cases List.mem_singleton.mp hother
    rcases hend with hback | honcycle
    · exact hstack v hpath hback
    · exact hcycle ⟨v, hpath, honcycle⟩

/-- All that is promised of a search, from the parts above. -/
theorem Walk.unwinds {id : String} {s s' : Search} {found : Bool}
    (h : Walk needs [id] s found s') : Search.Unwinds needs id s found s' where
  stack_eq := h.stack_eq
  kept := h.visited_subset
  reached v hv := by
    rcases Classical.em (v ∈ s.visited) with hold | hnew
    · exact .inl hold
    · obtain ⟨other, hother, hpath⟩ := h.exists_endingAt_of_visited hv hnew
      cases List.mem_singleton.mp hother
      exact .inr hpath
  covered hfound v hpath := by
    subst hfound
    exact (h.mem_visited_of_endingAt (List.mem_cons_self ..) hpath).1
  cleared_iff := h.found_eq_false_iff

/-- **A search unwinds cleanly.** Whatever was visited and is being searched when it begins, the
search from a job ends without a bound on its depth, with the one result that it has under every
bound of two more than the jobs left to visit. Afterwards the same jobs are being searched as
before, also where a cycle was found and needs were left out, and to the jobs visited there come
only such as the job leads to through unvisited ones. Nothing is found exactly where no path through
unvisited jobs comes back to a job that is being searched, nor to a cycle of unvisited jobs, and
then all that these paths lead to is visited. -/
theorem Search.hasCycle_unwinds (jobs : KeyedList Job) (id : String) (s : Search) :
    ∃ found s', Search.hasCycle jobs id s = (found, s') ∧
      (∀ depth, (s.unvisited jobs.keys).length + 2 ≤ depth →
        Search.visit (needsIn jobs) depth id s = (found, s')) ∧
      (∀ found' s'', Walk (needsIn jobs) [id] s found' s'' ↔ found' = found ∧ s'' = s') ∧
      Search.Unwinds (needsIn jobs) id s found s' := by
  refine ⟨_, _, rfl, fun depth hdepth => ?_, fun found' s'' => walk_iff_hasCycle, ?_⟩
  · exact visit_eq_hasCycle hdepth
  · exact (walk_hasCycle jobs id s).unwinds

/-- A job that needs itself, and one that needs it through others. -/
def midwayJobs : KeyedList Job :=
  .ofList [("d", { needs := some (.one "d") }), ("top", { needs := some (.one "a") }),
    ("a", { needs := some (.many ["b", "d"]) }), ("b", { needs := some (.many ["d", "ghost"]) })]

/-- The search has entered the second job, after the first one was visited. -/
def midway : Search := ⟨["top", "d"], ["top"]⟩

/-- The job leads to a cycle, but the cycle was visited before, so that nothing is found. -/
theorem Search.hasCycle_unwinds_midway :
    midway.stack ⊆ midway.visited ∧ "a" ∉ midway.visited ∧
      Search.hasCycle midwayJobs "a" midway = (false, ⟨["ghost", "b", "a", "top", "d"], ["top"]⟩) ∧
      Search.Unwinds (needsIn midwayJobs) "a" midway false
        ⟨["ghost", "b", "a", "top", "d"], ["top"]⟩ ∧
      LeadsToCycle (needsIn midwayJobs) "a" := by
  have hresult : Search.hasCycle midwayJobs "a" midway =
      (false, ⟨["ghost", "b", "a", "top", "d"], ["top"]⟩) := by decide +kernel
  have hneed : "d" ∈ needsIn midwayJobs "a" := by decide +kernel
  have hself : "d" ∈ needsIn midwayJobs "d" := by decide +kernel
  obtain ⟨found, s', hsearch, _, _, hunwinds⟩ := Search.hasCycle_unwinds midwayJobs "a" midway
  rw [hresult] at hsearch
  cases hsearch
  exact ⟨by decide, by decide, hresult, hunwinds, "d", .single hneed, .single hself⟩

/-- Back at the job that is being searched the search ends, and `b` stays unvisited. -/
example :
    Search.hasCycle (.ofList [("a", { needs := some (.many ["top", "b"]) }), ("b", {})]) "a"
      ⟨["top"], ["top"]⟩ = (true, ⟨["a", "top"], ["top"]⟩) := by
  decide +kernel

end CiWorkflow.Lint
