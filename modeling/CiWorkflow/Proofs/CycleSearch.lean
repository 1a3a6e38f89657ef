import CiWorkflow.Proofs.Diagnostics
/-!
# The Search for Circular Dependencies

The search enters a job, searches the jobs that it needs, and leaves it. All searches share the jobs
visited, and each of them ends at the first job it meets twice on its own way. So a search leaves
jobs behind whose needs were never looked at, and later searches pass them over.

## Layers

- **Runs without a bound**: `Walk` and `Names` are the search and the check of all jobs with no
  bound on their depth. They have one result at most.
- **The bound is never met**: the bounded search has the result of the unbounded one, so that the
  search ends by itself.
- **What is found is a cycle**: a search that finds something leads to a cycle.
- **What is cleared has no cycle**: behind the jobs that a search visits without success there are
  none but jobs that were visited before.
- **All cycles are found**: a job visited is reached from a job that is named, or else no cycle can
  be reached from it outside of what the named jobs reach.
-/

namespace CiWorkflow.Lint

open Relation

variable {needs : String → List String}

/-! ## Runs without a bound -/

/-- A search of the jobs of a list one after the other, with no bound on its depth: whether a cycle
is found, and how far the search has come. -/
inductive Walk (needs : String → List String) : List String → Search → Bool → Search → Prop where
  /-- No job is left. -/
  | done (s : Search) : Walk needs [] s false s
  /-- A job that is being searched closes a cycle, and the jobs after it are left out. -/
  | closed {id : String} {rest : List String} {s : Search} (hstack : id ∈ s.stack) :
      Walk needs (id :: rest) s true s
  /-- A job that was visited is passed over. -/
  | passed {id : String} {rest : List String} {s s' : Search} {found : Bool}
      (hstack : id ∉ s.stack) (hvisited : id ∈ s.visited) (hrest : Walk needs rest s found s') :
      Walk needs (id :: rest) s found s'
  /-- Behind a job a cycle is found, and the jobs after it are left out. -/
  | found {id : String} {rest : List String} {s s' : Search}
      (hstack : id ∉ s.stack) (hvisited : id ∉ s.visited)
      (hinner : Walk needs (needs id) (s.enter id) true s') :
      Walk needs (id :: rest) s true (s'.leave id)
  /-- Behind a job no cycle is found. -/
  | cleared {id : String} {rest : List String} {s s' s'' : Search} {found : Bool}
      (hstack : id ∉ s.stack) (hvisited : id ∉ s.visited)
      (hinner : Walk needs (needs id) (s.enter id) false s')
      (hrest : Walk needs rest (s'.leave id) found s'') :
      Walk needs (id :: rest) s found s''

/-- The check of the jobs of a list with searches that have no bound, and the jobs it names. -/
inductive Names (needs : String → List String) : List String → Search → List String → Prop where
  | done (s : Search) : Names needs [] s []
  /-- A job that was visited is passed over. -/
  | passed {id : String} {rest named : List String} {s : Search}
      (hvisited : id ∈ s.visited) (hrest : Names needs rest s named) :
      Names needs (id :: rest) s named
  /-- A job from which a cycle is found is named. -/
  | found {id : String} {rest named : List String} {s s' : Search}
      (hvisited : id ∉ s.visited) (hwalk : Walk needs [id] s true s')
      (hrest : Names needs rest s' named) :
      Names needs (id :: rest) s (id :: named)
  /-- A job from which no cycle is found is not. -/
  | cleared {id : String} {rest named : List String} {s s' : Search}
      (hvisited : id ∉ s.visited) (hwalk : Walk needs [id] s false s')
      (hrest : Names needs rest s' named) :
      Names needs (id :: rest) s named

/-- A search forgets nothing that was visited. -/
theorem Walk.visited_subset {ids : List String} {s s' : Search} {found : Bool}
    (h : Walk needs ids s found s') : s.visited ⊆ s'.visited := by
  induction h with
  | done s => exact List.Subset.refl _
  | closed _ => exact List.Subset.refl _
  | passed _ _ _ ih => exact ih
  | found _ _ _ ih => exact List.subset_of_cons_subset ih
  | cleared _ _ _ _ ihinner ihrest =>
    exact List.Subset.trans (List.subset_of_cons_subset ihinner) ihrest

theorem Search.stack_leave_enter {s s' : Search} {id : String} (hstack : id ∉ s.stack)
    (h : s'.stack = (s.enter id).stack) : (s'.leave id).stack = s.stack := by
  simp only [leave, h, enter]
  rw [List.filter_cons_of_neg (by simp), KeyedList.filter_bne_eq_self hstack]

/-- Whatever is found, the jobs that are being searched are the same afterwards. -/
theorem Walk.stack_eq {ids : List String} {s s' : Search} {found : Bool}
    (h : Walk needs ids s found s') : s'.stack = s.stack := by
  induction h with
  | done s => rfl
  | closed _ => rfl
  | passed _ _ _ ih => exact ih
  | found hstack _ _ ih => exact Search.stack_leave_enter hstack ih
  | cleared hstack _ _ _ ihinner ihrest =>
    -- the inner search gives back what `enter` pushed, and `leave` takes the job itself away
    exact ihrest.trans (Search.stack_leave_enter hstack ihinner)

/-- A cycle found at the first id ends the search, whatever ids come after it. -/
theorem Walk.cons_true {id : String} {rest : List String} {s s' : Search}
    (h : Walk needs [id] s true s') : Walk needs (id :: rest) s true s' := by
  cases h with
  | closed hstack => exact .closed hstack
  | passed _ _ hrest => nomatch hrest
  | found hstack hvisited hinner => exact .found hstack hvisited hinner
  | cleared _ _ _ hrest => nomatch hrest

/-- Where one job alone is searched without success the jobs after it come next. -/
theorem Walk.cons_false {id : String} {rest : List String} {s s' s'' : Search} {found : Bool}
    (h : Walk needs [id] s false s') (hrest : Walk needs rest s' found s'') :
    Walk needs (id :: rest) s found s'' := by
  cases h with
  | passed hstack hvisited hnil =>
    cases hnil with
    | done => exact .passed hstack hvisited hrest
  | cleared hstack hvisited hinner hnil =>
    cases hnil with
    | done => exact .cleared hstack hvisited hinner hrest

/-! ## The bound is never met -/

/-- The ids of a list that were not visited. -/
def Search.unvisited (ids : List String) (s : Search) : List String :=
  ids.filter fun id => !s.visited.contains id

theorem Search.length_unvisited_le {ids : List String} {s s' : Search}
    (h : s.visited ⊆ s'.visited) : (s'.unvisited ids).length ≤ (s.unvisited ids).length := by
  unfold unvisited
  rw [← List.countP_eq_length_filter, ← List.countP_eq_length_filter]
  apply List.countP_mono_left
  intro id _ hnew
  simp only [Bool.not_eq_true', List.contains_eq_mem, decide_eq_false_iff_not] at hnew ⊢
  exact fun hmem => hnew (h hmem)

/-- Entering a new job leaves less to visit, so the fuel never runs out. -/
theorem Search.length_unvisited_enter_lt {ids : List String} {s : Search} {id : String}
    (hmem : id ∈ ids) (hvisited : id ∉ s.visited) :
    ((s.enter id).unvisited ids).length < (s.unvisited ids).length := by
  -- entering takes out the job, and nothing else that was not visited
  have hsplit : (s.enter id).unvisited ids = (s.unvisited ids).filter (· != id) := by
    unfold unvisited
    rw [List.filter_filter]
    apply List.filter_congr
    intro other _
    simp only [enter, List.contains_cons, Bool.not_or]
    rfl
  rw [hsplit]
  refine List.length_filter_lt_length_iff_exists.mpr ⟨id, ?_, by simp⟩
  exact List.mem_filter.mpr ⟨hmem, by simpa using hvisited⟩

/-- The loop over the needs of a job walks as the search does that it calls for each of them. -/
theorem walk_anyStep {step : String → Search → Bool × Search} {ids : List String} {s : Search}
    (hstep : ∀ id s', s.visited ⊆ s'.visited →
      Walk needs [id] s' (step id s').1 (step id s').2) :
    Walk needs ids s (Search.anyStep step ids s).1 (Search.anyStep step ids s).2 := by
  induction ids generalizing s with
  | nil => exact .done s
  | cons id rest ih =>
    -- the rest is searched from where the first job left off, so `s` only grows along the list
    have hid := hstep id s (List.Subset.refl _)
    rcases hres : step id s with ⟨found, s'⟩
    rw [hres] at hid
    cases found with
    | true =>
      simp only [Search.anyStep, hres]
      exact hid.cons_true
    | false =>
      simp only [Search.anyStep, hres]
      exact hid.cons_false (ih fun next s'' hsub =>
        hstep next s'' (List.Subset.trans hid.visited_subset hsub))

/-- A bound of two more than the jobs left to visit is never met. The one is for the job itself,
the other for an id behind the last job, which needs nothing. -/
theorem walk_visit (ids : List String) (hids : ∀ id, needs id ≠ [] → id ∈ ids) (depth : Nat)
    (id : String) (s : Search) (hdepth : (s.unvisited ids).length + 2 ≤ depth) :
    Walk needs [id] s (Search.visit needs depth id s).1 (Search.visit needs depth id s).2 := by
  induction depth generalizing id s with
  | zero => omega
  | succ depth ih =>
    -- the three branches of the search: on the stack, visited, or neither
    unfold Search.visit
    by_cases hstack : id ∈ s.stack
    · rw [if_pos (by simpa using hstack)]
      exact .closed hstack
    rw [if_neg (by simpa using hstack)]
    by_cases hvisited : id ∈ s.visited
    · rw [if_pos (by simpa using hvisited)]
      exact .passed hstack hvisited (.done s)
    rw [if_neg (by simpa using hvisited)]
    have hinner : Walk needs (needs id) (s.enter id)
        (Search.anyStep (Search.visit needs depth) (needs id) (s.enter id)).1
        (Search.anyStep (Search.visit needs depth) (needs id) (s.enter id)).2 := by
      rcases hneeds : needs id with _ | ⟨need, rest⟩
      · exact .done _
      · refine walk_anyStep fun next s' hsub => ih next s' ?_
        -- a job that needs others is among the ids, so entering it leaves fewer of them
        have hmem : id ∈ ids := hids id (by rw [hneeds]; exact List.cons_ne_nil _ _)
        have hless := Search.length_unvisited_enter_lt hmem hvisited
        have hmore : (s'.unvisited ids).length ≤ ((s.enter id).unvisited ids).length :=
          Search.length_unvisited_le hsub
        omega
    rcases hres : Search.anyStep (Search.visit needs depth) (needs id) (s.enter id) with
      ⟨found, s'⟩
    rw [hres] at hinner
    cases found with
    | true => exact .found hstack hvisited hinner
    | false => exact .cleared hstack hvisited hinner (.done _)

/-- With fuel for every job, the search takes a walk to its end. -/
theorem walk_hasCycle (jobs : KeyedList Job) (id : String) (s : Search) :
    Walk (needsIn jobs) [id] s (Search.hasCycle jobs id s).1 (Search.hasCycle jobs id s).2 := by
  refine walk_visit jobs.keys (fun _ => mem_keys_of_needsIn_ne_nil) _ id s ?_
  have hlength : (s.unvisited jobs.keys).length ≤ jobs.keys.length := List.length_filter_le ..
  have hsize : jobs.keys.length = jobs.size := List.length_map ..
  omega

theorem names_cycles (jobs : KeyedList Job) (ids : List String) (s : Search) :
    Names (needsIn jobs) ids s (Search.cycles jobs ids s) := by
  -- on the jobs, from any state, since each search leaves another one behind
  induction ids generalizing s with
  | nil => exact .done s
  | cons id rest ih =>
    unfold Search.cycles
    by_cases hvisited : id ∈ s.visited
    · rw [if_pos (by simpa using hvisited)]
      exact .passed hvisited (ih s)
    rw [if_neg (by simpa using hvisited)]
    have hwalk := walk_hasCycle jobs id s
    rcases hres : Search.hasCycle jobs id s with ⟨found, s'⟩
    rw [hres] at hwalk
    cases found with
    | true => exact .found hvisited hwalk (ih s')
    | false => exact .cleared hvisited hwalk (ih s')

/-- The rules leave no choice, so a walk has one outcome. -/
theorem Walk.unique {ids : List String} {s s₁ s₂ : Search} {found₁ found₂ : Bool}
    (h₁ : Walk needs ids s found₁ s₁) (h₂ : Walk needs ids s found₂ s₂) :
    found₁ = found₂ ∧ s₁ = s₂ := by
  induction h₁ generalizing found₂ s₂ with
  | done s => cases h₂; exact ⟨rfl, rfl⟩
  | closed hstack =>
    cases h₂ with
    | closed _ => exact ⟨rfl, rfl⟩
    | passed hnot _ _ => exact absurd hstack hnot
    | found hnot _ _ => exact absurd hstack hnot
    | cleared hnot _ _ _ => exact absurd hstack hnot
  | passed hnot hvisited _ ih =>
    cases h₂ with
    | closed hstack => exact absurd hstack hnot
    | passed _ _ hrest => exact ih hrest
    | found _ hnew _ => exact absurd hvisited hnew
    | cleared _ hnew _ _ => exact absurd hvisited hnew
  | found hnot hnew _ ih =>
    -- the inner searches agree on what they find, so both runs are of one kind
    cases h₂ with
    | closed hstack => exact absurd hstack hnot
    | passed _ hvisited _ => exact absurd hvisited hnew
    | found _ _ hinner => exact ⟨rfl, by rw [(ih hinner).2]⟩
    | cleared _ _ hinner _ => exact nomatch (ih hinner).1
  | cleared hnot hnew _ _ ihinner ihrest =>
    cases h₂ with
    | closed hstack => exact absurd hstack hnot
    | passed _ hvisited _ => exact absurd hvisited hnew
    | found _ _ hinner => exact nomatch (ihinner hinner).1
    | cleared _ _ hinner hrest =>
      obtain ⟨_, rfl⟩ := ihinner hinner
      exact ihrest hrest

theorem Names.unique {ids named₁ named₂ : List String} {s : Search}
    (h₁ : Names needs ids s named₁) (h₂ : Names needs ids s named₂) : named₁ = named₂ := by
  -- each rule has a condition of its own, and a search behind it has one outcome
  induction h₁ generalizing named₂ with
  | done s => cases h₂; rfl
  | passed hvisited _ ih =>
    cases h₂ with
    | passed _ hrest => exact ih hrest
    | found hnew _ _ => exact absurd hvisited hnew
    | cleared hnew _ _ => exact absurd hvisited hnew
  | found hnew hwalk _ ih =>
    cases h₂ with
    | passed hvisited _ => exact absurd hvisited hnew
    | found _ hwalk' hrest =>
      obtain ⟨_, rfl⟩ := hwalk.unique hwalk'
      rw [ih hrest]
    | cleared _ hwalk' _ => exact nomatch (hwalk.unique hwalk').1
  | cleared hnew hwalk _ ih =>
    cases h₂ with
    | passed hvisited _ => exact absurd hvisited hnew
    | found _ hwalk' _ => exact nomatch (hwalk.unique hwalk').1
    | cleared _ hwalk' hrest =>
      obtain ⟨_, rfl⟩ := hwalk.unique hwalk'
      exact ih hrest

/-- The relation and the function name the same jobs. -/
theorem names_iff {jobs : KeyedList Job} {named : List String} :
    Names (needsIn jobs) jobs.keys .start named ↔ named = cycleJobs jobs := by
  have hrun : Names (needsIn jobs) jobs.keys .start (cycleJobs jobs) := names_cycles ..
  constructor
  · exact fun h => h.unique hrun
  · rintro rfl
    exact hrun

/-! ## What is found is a cycle -/

/-- Jobs are visited only where a way leads to them that goes on from jobs that were not visited
before. -/
theorem Walk.exists_endingAt_of_visited {ids : List String} {s s' : Search} {found : Bool}
    (h : Walk needs ids s found s') {v : String} (hv : v ∈ s'.visited) (hnew : v ∉ s.visited) :
    ∃ id ∈ ids, Reaches (endingAt s.visited needs) id v := by
  -- a job visited behind another one is that one or reached through its needs
  have behind {id : String} {rest : List String} {s : Search} (hid : id ∉ s.visited)
      (ih : v ∉ (s.enter id).visited →
        ∃ need ∈ needs id, Reaches (endingAt (s.enter id).visited needs) need v)
      (hnew : v ∉ s.visited) :
      ∃ other ∈ id :: rest, Reaches (endingAt s.visited needs) other v := by
    refine ⟨id, List.mem_cons_self .., ?_⟩
    rcases Classical.em (v = id) with rfl | hne
    · exact .refl
    · obtain ⟨need, hneed, hreach⟩ := ih (List.not_mem_cons_of_ne_of_not_mem hne hnew)
      exact .head (mem_endingAt.mpr ⟨hneed, hid⟩) (hreach.endingAt_mono (List.subset_cons_self ..))
  induction h with
  | done s => exact absurd hv hnew
  | closed _ => exact absurd hv hnew
  | passed _ _ _ ih =>
    obtain ⟨id, hid, hreach⟩ := ih hv hnew
    exact ⟨id, List.mem_cons_of_mem _ hid, hreach⟩
  | found _ hid _ ih => exact behind hid (ih hv) hnew
  | @cleared _ _ _ s' _ _ _ hid hinner _ ihinner ihrest =>
    rcases Classical.em (v ∈ s'.visited) with hfirst | hlater
    · exact behind hid (ihinner hfirst) hnew
    · obtain ⟨other, hother, hreach⟩ := ihrest hv hlater
      have hsub := List.subset_of_cons_subset hinner.visited_subset
      exact ⟨other, List.mem_cons_of_mem _ hother, hreach.endingAt_mono hsub⟩

/-- The upper bound: what a search visits it has come to by needs. -/
theorem Walk.reaches_of_visited {ids : List String} {s s' : Search} {found : Bool}
    (h : Walk needs ids s found s') {v : String} (hv : v ∈ s'.visited) (hnew : v ∉ s.visited) :
    ∃ id ∈ ids, Reaches needs id v := by
  obtain ⟨id, hid, hreach⟩ := h.exists_endingAt_of_visited hv hnew
  exact ⟨id, hid, hreach.of_endingAt⟩

/-- A search that finds something leads to a cycle, or back to a job that was being searched before
it began, and on the way it goes on only from jobs that were not visited before it began. -/
theorem Walk.exists_endingAt_of_found {ids : List String} {s s' : Search} {found : Bool}
    (h : Walk needs ids s found s') (hfound : found = true) :
    ∃ id ∈ ids, ∃ v, Reaches (endingAt s.visited needs) id v ∧
      (v ∈ s.stack ∨ OnCycle (endingAt s.visited needs) v) := by
  induction h with
  | done s => cases hfound
  | @closed id _ _ hstack => exact ⟨id, List.mem_cons_self .., id, .refl, .inl hstack⟩
  | passed _ _ _ ih =>
    obtain ⟨id, hid, hend⟩ := ih hfound
    exact ⟨id, List.mem_cons_of_mem _ hid, hend⟩
  | @found id _ s _ _ hnew _ ih =>
    obtain ⟨need, hneed, v, hbehind, hend⟩ := ih rfl
    have hedge : Edge (endingAt s.visited needs) id need := mem_endingAt.mpr ⟨hneed, hnew⟩
    have hreach := hbehind.endingAt_mono (List.subset_cons_self id s.visited)
    refine ⟨id, List.mem_cons_self .., v, .head hedge hreach, ?_⟩
    rcases hend with hstack | hcycle
    -- the job itself is searched now, so that it may be what the inner search comes back to
    · rcases List.mem_cons.mp hstack with rfl | hstack
      · exact .inr (.head' hedge hreach)
      · exact .inl hstack
    · exact .inr (hcycle.endingAt_mono (List.subset_cons_self id s.visited))
  | cleared hstack _ hinner _ _ ihrest =>
    have hsub := List.subset_of_cons_subset hinner.visited_subset
    obtain ⟨id, hid, v, hreach, hend⟩ := ihrest hfound
    rw [Search.stack_leave_enter hstack hinner.stack_eq] at hend
    exact ⟨id, List.mem_cons_of_mem _ hid, v, hreach.endingAt_mono hsub,
      hend.imp_right fun hcycle => hcycle.endingAt_mono hsub⟩

/-- Where nothing is being searched, a search that finds something leads to a cycle. -/
theorem Walk.leadsToCycle {id : String} {outside : List String} {s s' : Search}
    (h : Walk needs [id] s true s') (hvisited : outside ⊆ s.visited) (hstack : s.stack = []) :
    LeadsToCycle (without outside needs) id := by
  obtain ⟨other, hother, v, hreach, hend⟩ := h.exists_endingAt_of_found rfl
  cases List.mem_singleton.mp hother
  rw [hstack] at hend
  have hleads : LeadsToCycle (endingAt s.visited needs) id :=
    ⟨v, hreach, hend.resolve_left List.not_mem_nil⟩
  exact (hleads.mono (edge_endingAt_mono hvisited)).without_of_endingAt

/-- Soundness: every job that is named leads to a cycle. -/
theorem Names.reaches_onCycle {ids named : List String} {s : Search}
    (h : Names needs ids s named) (hstack : s.stack = []) {id : String} (hid : id ∈ named) :
    LeadsToCycle needs id := by
  induction h with
  | done s => cases hid
  | passed _ _ ih => exact ih hstack hid
  | found _ hwalk _ ih =>
    rcases List.mem_cons.mp hid with rfl | hid
    -- nothing was being searched before, so the search did end on a cycle
    · exact (hwalk.leadsToCycle (List.nil_subset _) hstack).of_without
    · exact ih (hwalk.stack_eq.trans hstack) hid
  | cleared _ hwalk _ ih => exact ih (hwalk.stack_eq.trans hstack) hid

/-! ## What is cleared has no cycle -/

/-- A job needs another one that was not visited. -/
def Search.NeedsNew (needs : String → List String) (s : Search) (need id : String) : Prop :=
  Edge needs id need ∧ need ∉ s.visited

/-- What a search without success leaves behind. -/
structure Search.Cleared (needs : String → List String) (s s' : Search) : Prop where
  /-- What the jobs it visited need is visited, and is not being searched. -/
  closed : ∀ v ∈ s'.visited, v ∉ s.visited → ∀ need ∈ needs v,
    need ∈ s'.visited ∧ need ∉ s.stack
  /-- Chains of needs end behind the jobs it visited, or at a job visited before. -/
  grounded : ∀ v ∈ s'.visited, v ∉ s.visited → Acc (Search.NeedsNew needs s) v

/-- Chains that end under one relation end under another one, if it leads out of a set of ids only
where its chains end, and is part of the first one inside. -/
private theorem acc_of_steps {r r' : String → String → Prop} {p : String → Prop}
    (hsteps : ∀ v, p v → ∀ next, r' next v → (r next v ∧ p next) ∨ Acc r' next) {v : String}
    (hacc : Acc r v) (hv : p v) : Acc r' v := by
  induction hacc with
  | intro v _ ih =>
    apply Acc.intro v
    intro next hnext
    rcases hsteps v hv next hnext with ⟨hstep, hp⟩ | hend
    · exact ih next hstep hp
    · exact hend

/-- The jobs of a list searched without success are visited, and none of them was being searched. -/
theorem Walk.mem_visited_of_cleared {ids : List String} {s s' : Search} {found : Bool}
    (h : Walk needs ids s found s') (hfound : found = false) {id : String} (hid : id ∈ ids) :
    id ∈ s'.visited ∧ id ∉ s.stack := by
  -- the rules that end with a cycle do not apply, and the others go through all ids
  induction h with
  | done s => cases hid
  | closed _ => cases hfound
  | passed hstack hvisited hrest ih =>
    rcases List.mem_cons.mp hid with rfl | hid
    · exact ⟨hrest.visited_subset hvisited, hstack⟩
    · exact ih hfound hid
  | found _ _ _ _ => cases hfound
  | cleared hstack _ hinner hrest _ ihrest =>
    rcases List.mem_cons.mp hid with rfl | hid
    · exact ⟨hrest.visited_subset (hinner.visited_subset (List.mem_cons_self ..)), hstack⟩
    · obtain ⟨hvisited, hnot⟩ := ihrest hfound hid
      rw [Search.stack_leave_enter hstack hinner.stack_eq] at hnot
      exact ⟨hvisited, hnot⟩

theorem Search.cleared_refl (s : Search) : Search.Cleared needs s s where
  closed _ hv hnew := absurd hv hnew
  grounded _ hv hnew := absurd hv hnew

/-- Behind a job nothing is found: then the job itself is cleared with what lies behind it. -/
theorem Search.Cleared.leave {id : String} {s s' : Search}
    (h : Search.Cleared needs (s.enter id) s')
    (hneeds : ∀ need ∈ needs id, need ∈ s'.visited ∧ need ∉ (s.enter id).stack) :
    Search.Cleared needs s (s'.leave id) := by
  have hother : ∀ v, v ≠ id → v ∉ s.visited → v ∉ (s.enter id).visited := fun v hne hnew =>
    List.not_mem_cons_of_ne_of_not_mem hne hnew
  have closed : ∀ v ∈ s'.visited, v ∉ s.visited → ∀ need ∈ needs v,
      need ∈ s'.visited ∧ need ∉ (s.enter id).stack := by
    intro v hv hnew need hneed
    rcases Classical.em (v = id) with rfl | hne
    · exact hneeds need hneed
    · exact h.closed v hv (hother v hne hnew) need hneed
  -- no chain comes back to the job, so behind it chains end as they do in the inner search
  have behind : ∀ v, v ∈ s'.visited ∧ v ∉ (s.enter id).visited →
      Acc (Search.NeedsNew needs s) v := by
    intro v hv
    refine acc_of_steps (p := fun v => v ∈ s'.visited ∧ v ∉ (s.enter id).visited)
      (fun v hv next hnext => .inl ?_) (h.grounded v hv.1 hv.2) hv
    obtain ⟨hmem, hnot⟩ := h.closed v hv.1 hv.2 next hnext.1
    have hnew := hother next (List.ne_of_not_mem_cons hnot) hnext.2
    exact ⟨⟨hnext.1, hnew⟩, hmem, hnew⟩
  refine ⟨fun v hv hnew need hneed => ?_, fun v hv hnew => ?_⟩
  · obtain ⟨hmem, hnot⟩ := closed v hv hnew need hneed
    exact ⟨hmem, List.not_mem_of_not_mem_cons hnot⟩
  · rcases Classical.em (v = id) with rfl | hne
    · apply Acc.intro v
      intro next hnext
      obtain ⟨hmem, hnot⟩ := hneeds next hnext.1
      exact behind next ⟨hmem, hother next (List.ne_of_not_mem_cons hnot) hnext.2⟩
    · exact behind v ⟨hv, hother v hne hnew⟩

/-- What two searches clear one after the other is cleared by both together. -/
theorem Search.Cleared.trans {s s' s'' : Search} (h : Search.Cleared needs s s')
    (h' : Search.Cleared needs s' s'') (hstack : s'.stack = s.stack)
    (hvisited : s'.visited ⊆ s''.visited) : Search.Cleared needs s s'' := by
  refine ⟨fun v hv hnew need hneed => ?_, fun v hv hnew => ?_⟩
  · rcases Classical.em (v ∈ s'.visited) with hfirst | hlater
    · exact (h.closed v hfirst hnew need hneed).imp_left (hvisited ·)
    · exact hstack ▸ h'.closed v hv hlater need hneed
  · rcases Classical.em (v ∈ s'.visited) with hfirst | hlater
    · exact h.grounded v hfirst hnew
    · -- a chain of the second search ends, unless it enters what the first one cleared
      refine acc_of_steps (p := fun v => v ∈ s''.visited ∧ v ∉ s'.visited)
        (fun v hv next hnext => ?_) (h'.grounded v hv hlater) ⟨hv, hlater⟩
      rcases Classical.em (next ∈ s'.visited) with hfirst | hlater
      · exact .inr (h.grounded next hfirst hnext.2)
      · have hmem := (h'.closed v hv.1 hv.2 next hnext.1).1
        exact .inl ⟨⟨hnext.1, hlater⟩, hmem, hlater⟩

/-- A search without result has seen all that it could come to, by induction on the walk. -/
theorem Walk.cleared_of_not_found {ids : List String} {s s' : Search} {found : Bool}
    (h : Walk needs ids s found s') (hfound : found = false) : Search.Cleared needs s s' := by
  induction h with
  | done s => exact Search.cleared_refl s
  | closed _ => cases hfound
  | passed _ _ _ ih => exact ih hfound
  | found _ _ _ _ => cases hfound
  | cleared hstack _ hinner hrest ihinner ihrest =>
    have hfirst := (ihinner rfl).leave fun need hneed => hinner.mem_visited_of_cleared rfl hneed
    exact hfirst.trans (ihrest hfound) (Search.stack_leave_enter hstack hinner.stack_eq)
      hrest.visited_subset

/-! ## All cycles are found -/

/-- A job needs another one that does not count as covered. -/
def NeedsUncovered (needs : String → List String) (covered : String → Prop) (need id : String) :
    Prop :=
  Edge needs id need ∧ ¬covered need

/-- A job is covered, or chains of needs that are not covered end behind it. -/
def Settled (needs : String → List String) (covered : String → Prop) (id : String) : Prop :=
  covered id ∨ Acc (NeedsUncovered needs covered) id

/-- A search without success settles the jobs it visits, if those visited before are settled. -/
theorem Search.Cleared.settled {s s' : Search} (h : Search.Cleared needs s s')
    {covered : String → Prop} (hvisited : ∀ v ∈ s.visited, Settled needs covered v) :
    ∀ v ∈ s'.visited, Settled needs covered v := by
  intro v hv
  rcases Classical.em (v ∈ s.visited) with hold | hnew
  · exact hvisited v hold
  · right
    -- a chain that leaves what was visited now enters what was visited before, and is settled there
    refine acc_of_steps (p := fun v => v ∈ s'.visited ∧ v ∉ s.visited)
      (fun v hv next hnext => ?_) (h.grounded v hv hnew) ⟨hv, hnew⟩
    rcases Classical.em (next ∈ s.visited) with hold | hnew
    · exact .inr ((hvisited next hold).resolve_left hnext.2)
    · exact .inl ⟨⟨hnext.1, hnew⟩, (h.closed v hv.1 hv.2 next hnext.1).1, hnew⟩

/-- The check settles all jobs, where what a named job reaches is covered. -/
theorem Names.settled {ids named : List String} {s : Search} (h : Names needs ids s named)
    (hstack : s.stack = []) (covered : String → Prop)
    (hcovered : ∀ id ∈ named, ∀ v, Reaches needs id v → covered v)
    (hvisited : ∀ v ∈ s.visited, Settled needs covered v) :
    ∀ id ∈ ids, Settled needs covered id := by
  induction h with
  | done s => exact fun id hid => absurd hid List.not_mem_nil
  | passed hold _ ih =>
    intro id hid
    rcases List.mem_cons.mp hid with rfl | hid
    · exact hvisited id hold
    · exact ih hstack hcovered hvisited id hid
  | @found first _ _ s s' _ hwalk _ ih =>
    intro id hid
    rcases List.mem_cons.mp hid with rfl | hid
    · exact .inl (hcovered id (List.mem_cons_self ..) id .refl)
    · refine ih (hwalk.stack_eq.trans hstack) (fun other hother =>
        hcovered other (List.mem_cons_of_mem _ hother)) (fun v hv => ?_) id hid
      -- half searched or not, what a search with success visited is reached from the job it names
      rcases Classical.em (v ∈ s.visited) with hold | hnew
      · exact hvisited v hold
      · obtain ⟨other, hother, hreach⟩ := hwalk.reaches_of_visited hv hnew
        cases List.mem_singleton.mp hother
        exact .inl (hcovered first (List.mem_cons_self ..) v hreach)
  | cleared _ hwalk _ ih =>
    have hsettled := (hwalk.cleared_of_not_found rfl).settled hvisited
    intro id hid
    rcases List.mem_cons.mp hid with rfl | hid
    · exact hsettled id (hwalk.mem_visited_of_cleared rfl (List.mem_cons_self ..)).1
    · exact ih (hwalk.stack_eq.trans hstack) hcovered hsettled id hid

/-- Where all that is reached from covered ids is covered, a settled id on a cycle is covered: an
end of all chains behind it cannot be on the cycle. -/
theorem Settled.covered_of_onCycle {covered : String → Prop}
    (hreach : ∀ id v, covered id → Reaches needs id v → covered v) {id : String}
    (h : Settled needs covered id) (hcycle : OnCycle needs id) : covered id := by
  rcases h with hcovered | hacc
  · exact hcovered
  · induction hacc with
    | intro id _ ih =>
      -- the next id on the cycle is covered, at once or by induction, and leads back to this one
      obtain ⟨next, hedge, hback, hnext⟩ := hcycle.exists_edge
      have hcovered : covered next := Classical.byContradiction fun hnot =>
        hnot (ih next ⟨hedge, hnot⟩ hnext)
      exact hreach next id hcovered hback

/-- Every cycle among jobs that are checked is reached from a job that is named. -/
theorem Names.exists_reaches {ids named : List String} (h : Names needs ids .start named)
    (hids : ∀ id, needs id ≠ [] → id ∈ ids) {v : String} (hcycle : OnCycle needs v) :
    ∃ id ∈ named, Reaches needs id v := by
  have hsettled := h.settled rfl (fun v => ∃ id ∈ named, Reaches needs id v)
    (fun id hid v hreach => ⟨id, hid, hreach⟩) (fun v hv => absurd hv List.not_mem_nil)
  refine (hsettled v (hids v hcycle.needs_ne_nil)).covered_of_onCycle ?_ hcycle
  rintro v v' ⟨id, hid, hreach⟩ hreach'
  exact ⟨id, hid, hreach.trans hreach'⟩

/-- Jobs are named in their order and once at most. -/
theorem Names.sublist {ids named : List String} {s : Search} (h : Names needs ids s named) :
    named.Sublist ids := by
  induction h with
  | done s => exact .slnil
  | passed _ _ ih => exact ih.cons _
  | found _ _ _ ih => exact ih.cons_cons _
  | cleared _ _ _ ih => exact ih.cons _

/-! ## The check of a job map -/

theorem names_cycleJobs (jobs : KeyedList Job) :
    Names (needsIn jobs) jobs.keys .start (cycleJobs jobs) := names_cycles ..

/-- Some job is named just where some cycle exists. -/
theorem cycleJobs_ne_nil_iff {jobs : KeyedList Job} : cycleJobs jobs ≠ [] ↔ Cyclic jobs := by
  constructor
  · intro hne
    obtain ⟨id, hid⟩ := List.exists_mem_of_ne_nil _ hne
    obtain ⟨v, _, hcycle⟩ := (names_cycleJobs jobs).reaches_onCycle rfl hid
    exact ⟨v, hcycle⟩
  · rintro ⟨v, hcycle⟩
    obtain ⟨id, hid, _⟩ := (names_cycleJobs jobs).exists_reaches
      (fun _ => mem_keys_of_needsIn_ne_nil) hcycle
    exact List.ne_nil_of_mem hid

theorem cycleJobs_eq_nil_iff {jobs : KeyedList Job} : cycleJobs jobs = [] ↔ ¬Cyclic jobs := by
  rw [← cycleJobs_ne_nil_iff, not_not]

end CiWorkflow.Lint

namespace CiWorkflow

open Lint

/-- A cycle is reported just where there is one, whatever else is linted. -/
theorem Workflow.exists_reportsCycle_iff {options : LintOptions} {w : Workflow} :
    (∃ d ∈ w.lintWith options, d.ReportsCycle) ↔ Cyclic w.jobs := by
  rw [← cycleJobs_ne_nil_iff]
  constructor
  · rintro ⟨_, hd, id, rfl⟩
    exact List.ne_nil_of_mem (cycleDiagnostic_mem_lintWith.mp hd)
  · intro hne
    obtain ⟨id, hid⟩ := List.exists_mem_of_ne_nil _ hne
    exact ⟨_, cycleDiagnostic_mem_lintWith.mpr hid, id, rfl⟩

theorem Workflow.forall_not_reportsCycle_iff {options : LintOptions} {w : Workflow} :
    (∀ d ∈ w.lintWith options, ¬d.ReportsCycle) ↔ ¬Cyclic w.jobs := by
  have hreported : (∃ d ∈ w.lintWith options, d.ReportsCycle) ↔ Cyclic w.jobs :=
    exists_reportsCycle_iff
  rw [← hreported]
  push Not
  rfl

/-- **The check of circular dependencies is sound and complete up to reachability.** The search of
all jobs ends without a bound on its depth, every job it names leads to a cycle, every cycle is
reached from a job it names, and jobs are named in their order and none of them twice. A workflow
is told of just these jobs, and it is told of some exactly where the needs of its jobs have a cycle,
in whatever order they stand. -/
theorem cycleJobs_sound_and_complete (jobs : KeyedList Job) :
    (∀ named, Names (needsIn jobs) jobs.keys .start named ↔ named = cycleJobs jobs) ∧
    (∀ id ∈ cycleJobs jobs, ∃ v, Reaches (needsIn jobs) id v ∧ OnCycle (needsIn jobs) v) ∧
    (∀ v, OnCycle (needsIn jobs) v → ∃ id ∈ cycleJobs jobs, Reaches (needsIn jobs) id v) ∧
    (cycleJobs jobs).Sublist jobs.keys ∧ (cycleJobs jobs).Nodup ∧
    (∀ options (w : Workflow) id,
      cycleDiagnostic id ∈ { w with jobs := jobs }.lintWith options ↔ id ∈ cycleJobs jobs) ∧
    (∀ options (w : Workflow), w.jobs.entries.Perm jobs.entries →
      ((∃ d ∈ w.lintWith options, d.ReportsCycle) ↔ Cyclic jobs)) := by
  have hrun := names_cycleJobs jobs
  refine ⟨fun named => names_iff, fun id hid => hrun.reaches_onCycle rfl hid,
    fun v hcycle => hrun.exists_reaches (fun _ => mem_keys_of_needsIn_ne_nil) hcycle,
    hrun.sublist, hrun.sublist.nodup jobs.distinct,
    fun options w id => Workflow.cycleDiagnostic_mem_lintWith, fun options w horder => ?_⟩
  rw [Workflow.exists_reportsCycle_iff, cyclic_iff_of_perm horder]

/-- Of a cycle and the jobs before and behind it the first job is named, whether or not it is on the
cycle; the need that names no job does not matter. -/
example :
    cycleJobs (.ofList [("d", { needs := some (.many ["ghost", "c"]) }),
      ("c", { needs := some (.one "b") }), ("b", { needs := some (.many ["a", "a"]) }),
      ("a", { needs := some (.one "b") })]) = ["d"] := by
  decide +kernel

end CiWorkflow
