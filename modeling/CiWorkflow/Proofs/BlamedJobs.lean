import CiWorkflow.Proofs.CycleSearch
/-!
# Jobs Blamed for Circular Dependencies

A search blames the job from which it began, not the jobs of the cycle that it found. So a job that
merely depends on a cycle is blamed where it stands before the cycle, and the cycle itself is then
passed over. What protects a job is what was visited before it.

This complements `CycleSearch`, where jobs are blamed up to reachability.

## Layers

- **The check in the middle**: what the jobs in front of a job leave behind for its search.
- **Paths to cycles** from a settled job.
- **Blamed jobs** lead to a cycle that keeps away from the jobs in front of them, and a job is
  blamed if no job in front of it leads to its cycle. In some order, then, every job that leads to a
  cycle is blamed.
-/

namespace CiWorkflow.Lint

open Relation

variable {needs : String → List String}

/-! ## The check in the middle -/

/-- What the searches from some jobs leave behind, where nothing was being searched. -/
structure Search.After (needs : String → List String) (before : List String) (s s' : Search) :
    Prop where
  /-- Nothing is being searched. -/
  idle : s'.stack = []
  /-- What was visited stays visited. -/
  kept : s.visited ⊆ s'.visited
  /-- The jobs themselves are visited. -/
  visited : before ⊆ s'.visited
  /-- Besides, there is only what they lead to. -/
  reached : ∀ v ∈ s'.visited, v ∈ s.visited ∨ ∃ id ∈ before, Reaches needs id v

/-- A search that is begun while nothing is being searched visits its own job, with or without a
cycle. -/
theorem Walk.mem_visited {ids : List String} {s s' : Search} {found : Bool}
    (h : Walk needs ids s found s') {id : String} (hids : ids = [id]) (hstack : s.stack = []) :
    id ∈ s'.visited := by
  cases hids
  cases h with
  | closed hmem =>
    rw [hstack] at hmem
    cases hmem
  | passed _ hvisited hrest => exact hrest.visited_subset hvisited
  | found _ _ hinner => exact hinner.visited_subset (List.mem_cons_self ..)
  | cleared _ _ hinner hrest =>
    exact hrest.visited_subset (hinner.visited_subset (List.mem_cons_self ..))

theorem Search.after_nil {s : Search} (hstack : s.stack = []) : Search.After needs [] s s where
  idle := hstack
  kept := List.Subset.refl _
  visited := List.nil_subset _
  reached _ hv := .inl hv

/-- A job that was visited already is passed over, and adds nothing. -/
theorem Search.After.cons_visited {id : String} {before : List String} {s s' : Search}
    (h : Search.After needs before s s') (hid : id ∈ s.visited) :
    Search.After needs (id :: before) s s' where
  idle := h.idle
  kept := h.kept
  visited := List.cons_subset.mpr ⟨h.kept hid, h.visited⟩
  reached v hv := by
    rcases h.reached v hv with hold | ⟨other, hother, hreach⟩
    · exact .inl hold
    · exact .inr ⟨other, List.mem_cons_of_mem _ hother, hreach⟩

/-- A job that is searched adds what it leads to, and no more. -/
theorem Search.After.cons_walk {id : String} {before : List String} {s s' s'' : Search}
    {found : Bool} (h : Search.After needs before s' s'') (hwalk : Walk needs [id] s found s')
    (hstack : s.stack = []) : Search.After needs (id :: before) s s'' where
  idle := h.idle
  kept := List.Subset.trans hwalk.visited_subset h.kept
  visited := List.cons_subset.mpr ⟨h.kept (hwalk.mem_visited rfl hstack), h.visited⟩
  reached v hv := by
    rcases Classical.em (v ∈ s.visited) with hold | hnew
    · exact .inl hold
    · -- a search that stops early has visited less, but nothing that it does not lead to
      right
      rcases h.reached v hv with hfirst | ⟨other, hother, hreach⟩
      · obtain ⟨first, hmem, hreach⟩ := hwalk.reaches_of_visited hfirst hnew
        cases List.mem_singleton.mp hmem
        exact ⟨id, List.mem_cons_self .., hreach⟩
      · exact ⟨other, List.mem_cons_of_mem _ hother, hreach⟩

/-- The check of a list goes on in the middle of it, and has named none but the jobs before. -/
theorem Names.exists_after {before rest named : List String} {s : Search}
    (h : Names needs (before ++ rest) s named) (hstack : s.stack = []) :
    ∃ s' first later, Search.After needs before s s' ∧ first ⊆ before ∧ named = first ++ later ∧
      Names needs rest s' later := by
  -- a search gives back the stack that it got, so that every job begins with an empty one
  induction before generalizing s named with
  | nil => exact ⟨s, [], named, Search.after_nil hstack, List.Subset.refl _, rfl, h⟩
  | cons id before ih =>
    rw [List.cons_append] at h
    cases h with
    | passed hvisited hrest =>
      obtain ⟨s', first, later, hafter, hfirst, rfl, hlater⟩ := ih hrest hstack
      exact ⟨s', first, later, hafter.cons_visited hvisited,
        List.subset_cons_of_subset id hfirst, rfl, hlater⟩
    | found _ hwalk hrest =>
      obtain ⟨s', first, later, hafter, hfirst, rfl, hlater⟩ :=
        ih hrest (hwalk.stack_eq.trans hstack)
      exact ⟨s', id :: first, later, hafter.cons_walk hwalk hstack,
        List.cons_subset_cons id hfirst, rfl, hlater⟩
    | cleared _ hwalk hrest =>
      obtain ⟨s', first, later, hafter, hfirst, rfl, hlater⟩ :=
        ih hrest (hwalk.stack_eq.trans hstack)
      exact ⟨s', first, later, hafter.cons_walk hwalk hstack,
        List.subset_cons_of_subset id hfirst, rfl, hlater⟩

/-- A job is named exactly where it was not visited and its own search finds something. -/
theorem mem_cycleJobs_iff_of_keys {jobs : KeyedList Job} {before after : List String} {id : String}
    (hkeys : jobs.keys = before ++ id :: after) :
    ∃ s, Search.After (needsIn jobs) before .start s ∧
      (id ∈ cycleJobs jobs ↔ id ∉ s.visited ∧ ∃ s', Walk (needsIn jobs) [id] s true s') := by
  have hrun := names_cycleJobs jobs
  have hnodup : (before ++ id :: after).Nodup := hkeys ▸ jobs.distinct
  obtain ⟨_, htail, hapart⟩ := List.nodup_append.mp hnodup
  -- a job stands in the list once, so it is named at its own place or nowhere
  have hbefore : id ∉ before := fun hmem => hapart id hmem id (List.mem_cons_self ..) rfl
  have hafter : id ∉ after := (List.nodup_cons.mp htail).1
  rw [hkeys] at hrun
  obtain ⟨s, first, later, hstate, hfirst, hnamed, hlater⟩ := hrun.exists_after rfl
  refine ⟨s, hstate, ?_⟩
  have honly : id ∈ cycleJobs jobs ↔ id ∈ later := by
    rw [hnamed, List.mem_append]
    exact or_iff_right fun hmem => hbefore (hfirst hmem)
  rw [honly]
  cases hlater with
  | passed hvisited hrest =>
    exact ⟨fun hmem => absurd (hrest.sublist.subset hmem) hafter, fun h => absurd hvisited h.1⟩
  | found hnew hwalk _ => exact iff_of_true (List.mem_cons_self ..) ⟨hnew, _, hwalk⟩
  | cleared _ hwalk hrest =>
    refine iff_of_false (fun hmem => hafter (hrest.sublist.subset hmem)) ?_
    rintro ⟨_, s', hfound⟩
    cases (hwalk.unique hfound).1

/-! ## Paths to cycles -/

/-- Where all that is reached from covered ids is covered, so is a cycle behind a settled id. -/
theorem Settled.covered_of_reaches {covered : String → Prop}
    (hreach : ∀ id v, covered id → Reaches needs id v → covered v) {id v : String}
    (h : Settled needs covered id) (hpath : Reaches needs id v) (hcycle : OnCycle needs v) :
    covered v := by
  -- along a path an id stays settled, and on a cycle only covered ids are settled
  suffices hsettled : Settled needs covered v from hsettled.covered_of_onCycle hreach hcycle
  clear hcycle
  induction hpath with
  | refl => exact h
  | @tail mid next _ hedge ih =>
    rcases ih with hcovered | hacc
    · exact .inl (hreach mid next hcovered (.single hedge))
    · rcases Classical.em (covered next) with hcovered | hnot
      · exact .inl hcovered
      · exact .inr (hacc.inv ⟨hedge, hnot⟩)

/-! ## Blamed jobs -/

variable {jobs : KeyedList Job} {before after : List String} {id : String}

/-- From a job that is named a path leads to a cycle, and neither comes upon a job in front. -/
theorem leadsToCycle_of_mem_cycleJobs (hkeys : jobs.keys = before ++ id :: after)
    (h : id ∈ cycleJobs jobs) : LeadsToCycle (without before (needsIn jobs)) id := by
  obtain ⟨s, hstate, hiff⟩ := mem_cycleJobs_iff_of_keys hkeys
  obtain ⟨_, s', hwalk⟩ := hiff.mp h
  exact hwalk.leadsToCycle hstate.visited hstate.idle

/-- A job that leads to a cycle is named, unless a job in front of it leads to the same cycle. -/
theorem mem_cycleJobs_of_reaches (hkeys : jobs.keys = before ++ id :: after) {v : String}
    (hpath : Reaches (needsIn jobs) id v) (hcycle : OnCycle (needsIn jobs) v)
    (hbefore : ∀ first ∈ before, ¬Reaches (needsIn jobs) first v) : id ∈ cycleJobs jobs := by
  obtain ⟨s, hstate, hiff⟩ := mem_cycleJobs_iff_of_keys hkeys
  -- whatever was visited is reached from a job in front, and such a job does not lead to the cycle
  have hreached : ∀ u ∈ s.visited, ∃ first ∈ before, Reaches (needsIn jobs) first u :=
    fun u hu => (hstate.reached u hu).resolve_left List.not_mem_nil
  have hnew : id ∉ s.visited := by
    intro hmem
    obtain ⟨first, hfirst, hreach⟩ := hreached id hmem
    exact hbefore first hfirst (hreach.trans hpath)
  refine hiff.mpr ⟨hnew, ?_⟩
  have hwalk := walk_hasCycle jobs id s
  rcases hres : Search.hasCycle jobs id s with ⟨found, s'⟩
  rw [hres] at hwalk
  cases found with
  | true => exact ⟨s', hwalk⟩
  | false =>
    -- a search without success would settle the job, and so the cycle behind it
    have hsettled :
        Settled (needsIn jobs) (fun u => ∃ first ∈ before, Reaches (needsIn jobs) first u) id :=
      (hwalk.cleared_of_not_found rfl).settled (fun u hu => .inl (hreached u hu)) id
        (hwalk.mem_visited rfl hstate.idle)
    obtain ⟨first, hfirst, hreach⟩ := hsettled.covered_of_reaches
      (fun a b ⟨first, hfirst, ha⟩ hab => ⟨first, hfirst, ha.trans hab⟩) hpath hcycle
    exact absurd hreach (hbefore first hfirst)

/-- Any job can be put in front of the others. -/
theorem exists_perm_keys_cons (hid : id ∈ jobs.keys) :
    ∃ other : KeyedList Job, other.entries.Perm jobs.entries ∧ ∃ rest, other.keys = id :: rest := by
  obtain ⟨e, he, rfl⟩ := List.mem_map.mp hid
  obtain ⟨front, back, hsplit⟩ := List.append_of_mem he
  have hperm : (e :: (front ++ back)).Perm jobs.entries := by
    rw [hsplit]
    exact List.perm_middle.symm
  have hdistinct : ((e :: (front ++ back)).map Prod.fst).Nodup :=
    (hperm.map Prod.fst).nodup_iff.mpr jobs.distinct
  exact ⟨⟨_, hdistinct⟩, hperm, (front ++ back).map Prod.fst, rfl⟩

end CiWorkflow.Lint

namespace CiWorkflow.Workflow

open Lint Relation

/-- **Who is blamed for a circular dependency.** Whatever the order of its jobs, a workflow is told
of none but jobs on a cycle exactly where every job that leads to a cycle lies on one. In a given
order, a job that is blamed leads to a cycle without the jobs in front of it, so that a job that
merely depends on cycles is never blamed behind a job of each of them; and a job that leads to a
cycle is blamed if none in front of it leads to that cycle. -/
theorem blamed_onCycle_iff (options : LintOptions) (w : Workflow) :
    ((∀ jobs : KeyedList Job, jobs.entries.Perm w.jobs.entries → ∀ id,
        cycleDiagnostic id ∈ { w with jobs := jobs }.lintWith options → OnCycle w.needsOf id) ↔
      ∀ id, LeadsToCycle w.needsOf id → OnCycle w.needsOf id) ∧
    ∀ before id after, w.jobs.keys = before ++ id :: after →
      (cycleDiagnostic id ∈ w.lintWith options → LeadsToCycle (without before w.needsOf) id) ∧
      ((∃ v, Reaches w.needsOf id v ∧ OnCycle w.needsOf v ∧
          ∀ first ∈ before, ¬Reaches w.needsOf first v) →
        cycleDiagnostic id ∈ w.lintWith options) := by
  have hblamed : ∀ (jobs : KeyedList Job) id,
      cycleDiagnostic id ∈ { w with jobs := jobs }.lintWith options ↔ id ∈ cycleJobs jobs :=
    fun _ _ => cycleDiagnostic_mem_lintWith
  refine ⟨⟨fun h id hleads => ?_, fun h jobs hperm id hid => ?_⟩, ?_⟩
  · -- with the job in front of all others nothing keeps it from being blamed
    obtain ⟨jobs, hperm, rest, hkeys⟩ := exists_perm_keys_cons (LeadsToCycle.mem_keys hleads)
    apply h jobs hperm
    obtain ⟨v, hpath, hcycle⟩ := hleads
    have hsame : needsIn jobs = w.needsOf := needsIn_of_perm hperm
    rw [hblamed]
    have hfront : jobs.keys = [] ++ id :: rest := hkeys
    exact mem_cycleJobs_of_reaches hfront (hsame ▸ hpath) (hsame ▸ hcycle)
      fun _ hfirst => absurd hfirst List.not_mem_nil
  · apply h
    have hsame : needsIn jobs = w.needsOf := needsIn_of_perm hperm
    rw [← hsame]
    exact (names_cycleJobs jobs).reaches_onCycle rfl ((hblamed jobs id).mp hid)
  · intro before id after hkeys
    constructor
    · intro hid
      exact leadsToCycle_of_mem_cycleJobs hkeys ((hblamed w.jobs id).mp hid)
    · rintro ⟨v, hpath, hcycle, hbefore⟩
      exact (hblamed w.jobs id).mpr (mem_cycleJobs_of_reaches hkeys hpath hcycle hbefore)

/-- A job that needs itself, and in front of it one that needs this job. -/
def dependentFirst : Workflow :=
  { on := .event "push"
    jobs := .ofList [
      ("c", { needs := some (.one "a"), steps := [.ofCommand "x"] }),
      ("a", { needs := some (.one "a"), steps := [.ofCommand "x"] })] }

/-- The job in front is blamed though nothing leads back to it, and the cycle itself is not. -/
theorem blamed_not_onCycle_dependentFirst :
    dependentFirst.lint = [cycleDiagnostic "c"] ∧ ¬OnCycle dependentFirst.needsOf "c" ∧
      OnCycle dependentFirst.needsOf "a" := by
  have hneeds : ∀ id ∈ dependentFirst.jobs.keys, dependentFirst.needsOf id = ["a"] := by
    decide +kernel
  have hself : "a" ∈ dependentFirst.needsOf "a" := by decide +kernel
  refine ⟨by decide +kernel, fun hcycle => ?_, .single hself⟩
  -- the last edge of a cycle through the job would lead to it
  obtain ⟨last, _, hedge⟩ := TransGen.tail'_iff.mp hcycle
  have hlast : last ∈ dependentFirst.jobs.keys := Requires.mem_keys hedge
  have htarget : "c" ∈ dependentFirst.needsOf last := hedge
  rw [hneeds last hlast] at htarget
  exact absurd htarget (by decide)

end CiWorkflow.Workflow
