import CiWorkflow.Proofs.Levels
import Mathlib.Data.Finset.Lattice.Fold
import Mathlib.Order.Lattice.Nat
import Mathlib.Tactic.Push
/-!
# Sound Jobs and Their Depth

Where nothing is ready, a job is placed by force, and jobs that need it may follow it. Still no
sound job waits for a broken one: as long as a sound job is left, some sound job is ready, and
nothing but sound jobs can be, since all that is placed is sound.

## Layers

- **Depth**: the longest chain of needs behind a job.
- **Sound jobs**: no cycle and no missing job comes before them, so that they have a depth.
- **Depth below a bound**: what is sound and not deep is known by recursion on the bound, in the
  same way in which columns are made.
- **Columns**: while sound jobs are left, the jobs in the first columns are the sound jobs of a
  depth below the number of these columns.
-/

namespace CiWorkflow

open Relation

variable {needs : String → List String}

/-! ## Depth -/

/-- An id without needs has depth zero, and any other one is deeper by one than the deepest of its
needs. -/
inductive HasDepth (needs : String → List String) : String → Nat → Prop where
  | root {id : String} (hnone : needs id = []) : HasDepth needs id 0
  | above {id : String} {depth : String → Nat} (hsome : needs id ≠ [])
      (hneeds : ∀ need ∈ needs id, HasDepth needs need (depth need)) :
      HasDepth needs id (1 + (needs id).toFinset.sup depth)

/-- From an id there is a chain of so many needs, each of the one before it. -/
inductive Chain (needs : String → List String) : String → Nat → Prop where
  | stop (id : String) : Chain needs id 0
  | step {id need : String} {length : Nat} (hneed : need ∈ needs id)
      (hrest : Chain needs need length) : Chain needs id (length + 1)

theorem exists_hasDepth_of_needs {id : String}
    (h : ∀ need ∈ needs id, ∃ depth, HasDepth needs need depth) :
    ∃ depth, HasDepth needs id depth := by
  rcases Classical.em (needs id = []) with hnone | hsome
  · exact ⟨0, .root hnone⟩
  · choose! depth hdepth using h
    exact ⟨_, .above hsome hdepth⟩

/-- Some chain is as long as the depth. -/
theorem HasDepth.chain {id : String} {depth : Nat} (h : HasDepth needs id depth) :
    Chain needs id depth := by
  induction h with
  | root _ => exact .stop _
  | @above id depth hsome _ ih =>
    -- a chain through the deepest need is as long as the depth says
    have hne : (needs id).toFinset.Nonempty := List.toFinset_nonempty_iff _ |>.mpr hsome
    obtain ⟨need, hneed, hdeepest⟩ := Finset.exists_mem_eq_sup _ hne depth
    have hmem : need ∈ needs id := List.mem_toFinset.mp hneed
    rw [hdeepest, Nat.add_comm]
    exact .step hmem (ih need hmem)

/-- No chain is longer. -/
theorem HasDepth.length_le {id : String} {depth length : Nat} (h : HasDepth needs id depth)
    (hchain : Chain needs id length) : length ≤ depth := by
  induction h generalizing length with
  | root hnone =>
    cases hchain with
    | stop => exact Nat.le_refl 0
    | step hneed _ =>
      rw [hnone] at hneed
      cases hneed
  | @above id depth _ _ ih =>
    cases hchain with
    | stop => exact Nat.zero_le _
    | @step _ need length hneed hrest =>
      -- the first step leads to a need, which has a depth of its own
      have hless : length ≤ depth need := ih need hneed hrest
      have hsup : depth need ≤ (needs id).toFinset.sup depth :=
        Finset.le_sup (List.mem_toFinset.mpr hneed)
      omega

/-- The depth is the length of the longest chain of needs. -/
theorem HasDepth.isGreatest {id : String} {depth : Nat} (h : HasDepth needs id depth) :
    IsGreatest {length | Chain needs id length} depth :=
  ⟨h.chain, fun _ hchain => h.length_le hchain⟩

/-- An id has one depth at most, as a set has one greatest element. -/
theorem HasDepth.unique {id : String} {depth other : Nat} (h : HasDepth needs id depth)
    (hother : HasDepth needs id other) : depth = other :=
  h.isGreatest.unique hother.isGreatest

/-! ## Sound jobs -/

namespace Workflow

/-- Neither a job nor anything that comes before it lies on a cycle or needs a missing job. -/
structure SoundJob (w : Workflow) (id : String) : Prop where
  isJob : id ∈ w.jobs.keys
  /-- No cycle comes before it. -/
  acyclic : ∀ before, Reaches w.needsOf id before → ¬OnCycle w.needsOf before
  /-- No missing job is needed before it. -/
  exist : ∀ before, Reaches w.needsOf id before → ∀ need ∈ w.needsOf before, need ∈ w.jobs.keys

variable {w : Workflow} {id : String}

/-- Soundness goes down to what a job needs. -/
theorem SoundJob.of_mem_needsOf (h : w.SoundJob id) {need : String} (hneed : need ∈ w.needsOf id) :
    w.SoundJob need where
  isJob := h.exist id .refl need hneed
  acyclic before hreach := h.acyclic before (.head hneed hreach)
  exist before hreach := h.exist before (.head hneed hreach)

/-- Soundness goes up to a job whose needs are all sound, for a cycle through the job would go
through one of them. -/
theorem soundJob_of_needs (hid : id ∈ w.jobs.keys)
    (hneeds : ∀ need ∈ w.needsOf id, w.SoundJob need) : w.SoundJob id where
  isJob := hid
  acyclic before hreach := by
    rcases ReflTransGen.cases_head hreach with rfl | ⟨need, hneed, hreach⟩
    · -- a cycle through the job would go on through one of its needs
      intro hcycle
      obtain ⟨next, hedge, _, hnext⟩ := hcycle.exists_edge
      exact (hneeds next hedge).acyclic next .refl hnext
    · exact (hneeds need hneed).acyclic before hreach
  exist before hreach := by
    rcases ReflTransGen.cases_head hreach with rfl | ⟨need, hneed, hreach⟩
    · exact fun need hneed => (hneeds need hneed).isJob
    · exact (hneeds need hneed).exist before hreach

/-- A workflow has sound needs if each of its jobs is sound for itself. -/
theorem soundNeeds_iff_forall_soundJob : w.SoundNeeds ↔ ∀ id ∈ w.jobs.keys, w.SoundJob id := by
  constructor
  · intro h id hid
    exact ⟨hid, fun before _ hcycle => h.acyclic ⟨before, hcycle⟩,
      fun before _ need hneed => h.exist before need hneed⟩
  · intro h
    refine ⟨fun id need hrequires => ?_, ?_⟩
    · exact ((h id hrequires.mem_keys).of_mem_needsOf hrequires).isJob
    · rintro ⟨id, hcycle⟩
      exact (h id (mem_keys_of_needsIn_ne_nil hcycle.needs_ne_nil)).acyclic id .refl hcycle

/-- Sound jobs without a depth would each need another one of their kind, and so have a cycle. -/
theorem SoundJob.exists_hasDepth (h : w.SoundJob id) : ∃ depth, HasDepth w.needsOf id depth := by
  classical
  by_contra hdeep
  -- as a list, for there are but finitely many jobs
  let deep := w.jobs.keys.filter fun id =>
    w.SoundJob id ∧ ¬∃ depth, HasDepth w.needsOf id depth
  have hmem : ∀ other, other ∈ deep ↔
      w.SoundJob other ∧ ¬∃ depth, HasDepth w.needsOf other depth := by
    intro other
    simp only [deep, List.mem_filter, decide_eq_true_eq, and_iff_right_iff_imp]
    exact fun hother => hother.1.isJob
  have hclosed : ∀ other ∈ deep, ∃ next ∈ deep, Edge w.needsOf other next := by
    intro other hother
    obtain ⟨hsound, hnone⟩ := (hmem other).mp hother
    have hneed : ∃ need ∈ w.needsOf other, ¬∃ depth, HasDepth w.needsOf need depth := by
      by_contra hall
      push Not at hall
      exact hnone (exists_hasDepth_of_needs hall)
    obtain ⟨need, hneed, hnone⟩ := hneed
    exact ⟨need, (hmem need).mpr ⟨hsound.of_mem_needsOf hneed, hnone⟩, hneed⟩
  have hne : deep ≠ [] := List.ne_nil_of_mem ((hmem id).mpr ⟨h, hdeep⟩)
  obtain ⟨other, hother, hcycle⟩ := exists_onCycle_of_closed hne hclosed
  exact ((hmem other).mp hother).1.acyclic other .refl hcycle

/-! ## Depth below a bound -/

/-- The sound jobs whose depth is below a bound, by recursion on the bound. -/
def SoundBelow (w : Workflow) : Nat → String → Prop
  | 0, _ => False
  | bound + 1, id => id ∈ w.jobs.keys ∧ ∀ need ∈ w.needsOf id, w.SoundBelow bound need

instance decidableSoundBelow (w : Workflow) :
    (bound : Nat) → (id : String) → Decidable (w.SoundBelow bound id)
  | 0, _ => .isFalse not_false
  | bound + 1, id =>
    have := w.decidableSoundBelow bound
    inferInstanceAs (Decidable (id ∈ w.jobs.keys ∧ ∀ need ∈ w.needsOf id, w.SoundBelow bound need))

variable {bound : Nat}

theorem SoundBelow.soundJob (h : w.SoundBelow bound id) : w.SoundJob id := by
  induction bound generalizing id with
  | zero => cases h
  | succ bound ih =>
    obtain ⟨hid, hneeds⟩ := h
    exact soundJob_of_needs hid fun need hneed => ih (hneeds need hneed)

/-- The recursion on the bound computes the comparison with the depth. -/
theorem soundBelow_iff {depth : Nat} (hdepth : HasDepth w.needsOf id depth) (h : w.SoundJob id) :
    w.SoundBelow bound id ↔ depth < bound := by
  -- on the depth: what is left of the bound for the needs is less by one
  induction hdepth generalizing bound with
  | @root id hnone =>
    cases bound with
    | zero => simp [SoundBelow]
    | succ bound => simp [SoundBelow, hnone, h.isJob]
  | @above id depth hsome hneeds ih =>
    cases bound with
    | zero => simp [SoundBelow]
    | succ bound =>
      have hbelow : ∀ need ∈ w.needsOf id, (w.SoundBelow bound need ↔ depth need < bound) :=
        fun need hneed => ih need hneed (h.of_mem_needsOf hneed)
      obtain ⟨first, hfirst⟩ := List.exists_mem_of_ne_nil _ hsome
      rw [SoundBelow, and_iff_right h.isJob, forall₂_congr hbelow]
      constructor
      · intro hall
        have hpos : 0 < bound := Nat.zero_lt_of_lt (hall first hfirst)
        have hsup : (w.needsOf id).toFinset.sup depth < bound :=
          (Finset.sup_lt_iff hpos).mpr fun need hneed => hall need (List.mem_toFinset.mp hneed)
        omega
      · intro hsup need hneed
        have hle : depth need ≤ (w.needsOf id).toFinset.sup depth :=
          Finset.le_sup (List.mem_toFinset.mpr hneed)
        omega

theorem SoundBelow.succ (h : w.SoundBelow bound id) : w.SoundBelow (bound + 1) id := by
  have hsound : w.SoundJob id := h.soundJob
  obtain ⟨depth, hdepth⟩ := hsound.exists_hasDepth
  rw [soundBelow_iff hdepth hsound] at h ⊢
  omega

/-- Where a sound job is not below a bound, some sound job is right at the bound. -/
theorem exists_soundBelow_succ (h : w.SoundJob id) (hdeep : ¬w.SoundBelow bound id) :
    ∃ next, w.SoundBelow (bound + 1) next ∧ ¬w.SoundBelow bound next := by
  by_contra hnone
  push Not at hnone
  -- otherwise nothing that is sound would get over the bound
  have hbelow : ∀ more other, w.SoundBelow (bound + more) other → w.SoundBelow bound other := by
    intro more
    induction more with
    | zero => exact fun _ hother => hother
    | succ more ih =>
      rintro other ⟨hother, hneeds⟩
      exact hnone other ⟨hother, fun need hneed => ih need (hneeds need hneed)⟩
  obtain ⟨depth, hdepth⟩ := h.exists_hasDepth
  apply hdeep
  apply hbelow (depth + 1) id
  rw [soundBelow_iff hdepth h]
  omega

/-! ## Columns -/

/-- Some sound job is as deep as the bound, or deeper. -/
def SoundLeft (w : Workflow) (bound : Nat) : Prop := ∃ id, w.SoundJob id ∧ ¬w.SoundBelow bound id

/-- Where the sound jobs below a bound are placed and others are left, the next column takes those
at the bound and no other jobs. -/
theorem mem_nextColumn_of_placed {placed : List String}
    (hplaced : ∀ id, id ∈ placed ↔ w.SoundBelow bound id) (hleft : w.SoundLeft bound) :
    id ∈ nextColumn w.needsOf placed (leftOf w.jobs.keys placed) ↔
      w.SoundBelow (bound + 1) id ∧ ¬w.SoundBelow bound id := by
  have hready : ∀ id, id ∈ readyJobs w.needsOf placed (leftOf w.jobs.keys placed) ↔
      w.SoundBelow (bound + 1) id ∧ ¬w.SoundBelow bound id := by
    intro id
    rw [mem_readyJobs, mem_leftOf, SoundBelow]
    simp only [hplaced]
    exact and_right_comm
  obtain ⟨deep, hsound, hdeep⟩ := hleft
  obtain ⟨next, hnext⟩ := exists_soundBelow_succ hsound hdeep
  rw [nextColumn_of_ready (List.ne_nil_of_mem ((hready next).mpr hnext)), hready]

/-- Where the first columns hold the sound jobs below their number, the next one is there and holds
those at this number. -/
theorem exists_column_of_placed (hplaced : ∀ id, id ∈ w.placedBefore bound ↔ w.SoundBelow bound id)
    (hleft : w.SoundLeft bound) :
    ∃ column, w.levels[bound]? = some column ∧
      ∀ id, id ∈ column ↔ w.SoundBelow (bound + 1) id ∧ ¬w.SoundBelow bound id := by
  obtain ⟨deep, hsound, hdeep⟩ := hleft
  cases hcolumn : w.levels[bound]? with
  | none =>
    -- all columns would be made, so that the job would stand in one of them
    have hall : w.levels.take bound = w.levels :=
      List.take_of_length_le (List.getElem?_eq_none_iff.mp hcolumn)
    have hmem : deep ∈ w.placedBefore bound := by
      rw [placedBefore, hall, mem_flatten_levels]
      exact hsound.isJob
    exact absurd ((hplaced deep).mp hmem) hdeep
  | some column =>
    obtain ⟨_, hnext⟩ := w.levelling_levels.eq_nextColumn hcolumn
    refine ⟨column, rfl, fun id => ?_⟩
    rw [hnext, List.nil_append]
    exact mem_nextColumn_of_placed hplaced ⟨deep, hsound, hdeep⟩

/-- While sound jobs are left, the first columns hold the sound jobs below their number. -/
theorem mem_placedBefore (hleft : ∀ n < bound, w.SoundLeft n) :
    id ∈ w.placedBefore bound ↔ w.SoundBelow bound id := by
  induction bound generalizing id with
  | zero => simp [placedBefore, SoundBelow]
  | succ bound ih =>
    have hplaced : ∀ id, id ∈ w.placedBefore bound ↔ w.SoundBelow bound id :=
      fun id => ih fun n hn => hleft n (by omega)
    obtain ⟨column, hcolumn, hmem⟩ := exists_column_of_placed hplaced (hleft bound (by omega))
    have happend : w.placedBefore (bound + 1) = w.placedBefore bound ++ column := by
      simp [placedBefore, List.take_add_one, hcolumn]
    rw [happend, List.mem_append, hplaced, hmem]
    -- the column holds just what is sound below the next bound and was not so below this one
    constructor
    · rintro (hbelow | ⟨hat, _⟩)
      · exact hbelow.succ
      · exact hat
    · intro hat
      rcases Classical.em (w.SoundBelow bound id) with hbelow | hnot
      · exact .inl hbelow
      · exact .inr ⟨hat, hnot⟩

/-- Up to the depth of a sound job, a column holds the sound jobs whose depth is its number. -/
theorem SoundJob.exists_column (h : w.SoundJob id) {depth : Nat}
    (hdepth : HasDepth w.needsOf id depth) {index : Nat} (hindex : index ≤ depth) :
    ∃ column, w.levels[index]? = some column ∧
      ∀ other, other ∈ column ↔ w.SoundBelow (index + 1) other ∧ ¬w.SoundBelow index other := by
  have hleft : ∀ n ≤ depth, w.SoundLeft n := by
    intro n hn
    refine ⟨id, h, ?_⟩
    rw [soundBelow_iff hdepth h]
    omega
  exact exists_column_of_placed (fun _ => mem_placedBefore fun n hn => hleft n (by omega))
    (hleft index hindex)

/-- No job stands in two columns. -/
theorem levels_index_unique {i j : Nat} {column other : List String}
    (hi : w.levels[i]? = some column) (hj : w.levels[j]? = some other) (hid : id ∈ column)
    (hother : id ∈ other) : i = j := by
  have hfirst : columnOf w.levels id = some i :=
    (columnOf_eq_some_iff w.nodup_flatten_levels).mpr ⟨column, hi, hid⟩
  have hsecond : columnOf w.levels id = some j :=
    (columnOf_eq_some_iff w.nodup_flatten_levels).mpr ⟨other, hj, hother⟩
  rw [hfirst] at hsecond
  exact Option.some.inj hsecond

/-- A sound job stands in the column whose number is its depth, and in no other one. -/
theorem SoundJob.mem_column_iff (h : w.SoundJob id) {depth : Nat}
    (hdepth : HasDepth w.needsOf id depth) {index : Nat} :
    (∃ column, w.levels[index]? = some column ∧ id ∈ column) ↔ index = depth := by
  obtain ⟨own, hown, hmem⟩ := h.exists_column hdepth (Nat.le_refl depth)
  have hid : id ∈ own := by
    rw [hmem, soundBelow_iff hdepth h, soundBelow_iff hdepth h]
    omega
  constructor
  · rintro ⟨column, hcolumn, hother⟩
    exact levels_index_unique hcolumn hown hother hid
  · rintro rfl
    exact ⟨own, hown, hid⟩

/-- No broken job stands beside a sound one, or before it. -/
theorem SoundJob.soundJob_of_mem_column (h : w.SoundJob id) {depth : Nat}
    (hdepth : HasDepth w.needsOf id depth) {index : Nat} (hindex : index ≤ depth)
    {column : List String} (hcolumn : w.levels[index]? = some column) {other : String}
    (hother : other ∈ column) : w.SoundJob other := by
  obtain ⟨own, hown, hmem⟩ := h.exists_column hdepth hindex
  rw [hcolumn] at hown
  cases hown
  exact ((hmem other).mp hother).1.soundJob

/-- Where all needs are sound, a column holds all jobs of the depth that is its number. -/
theorem SoundNeeds.mem_column_iff (h : w.SoundNeeds) {index : Nat} {column : List String}
    (hcolumn : w.levels[index]? = some column) :
    id ∈ column ↔ id ∈ w.jobs.keys ∧ HasDepth w.needsOf id index := by
  have hsound : ∀ id ∈ w.jobs.keys, w.SoundJob id := soundNeeds_iff_forall_soundJob.mp h
  constructor
  · intro hid
    have hkey : id ∈ w.jobs.keys :=
      mem_flatten_levels.mp (List.mem_flatten.mpr ⟨column, List.mem_of_getElem? hcolumn, hid⟩)
    obtain ⟨depth, hdepth⟩ := (hsound id hkey).exists_hasDepth
    have hindex : index = depth :=
      ((hsound id hkey).mem_column_iff hdepth).mp ⟨column, hcolumn, hid⟩
    exact ⟨hkey, hindex ▸ hdepth⟩
  · rintro ⟨hkey, hdepth⟩
    -- two columns that hold the job have one index, hence are one
    obtain ⟨own, hown, hid⟩ := ((hsound id hkey).mem_column_iff hdepth).mpr rfl
    rw [hcolumn] at hown
    cases hown
    exact hid

/-- **Broken jobs never displace sound ones.** A sound job has a depth, which is the length of its
longest chain of needs, and stands in the column of this number and in no other one. A column with a
sound job holds no other jobs, and stands before all columns with broken ones. Where all needs are
sound, the columns are the jobs of one depth after the other. -/
theorem levels_of_soundJobs (w : Workflow) :
    (∀ id, w.SoundJob id → ∃ depth : Nat,
      (∀ other, HasDepth w.needsOf id other ↔ other = depth) ∧
      IsGreatest {length | Chain w.needsOf id length} depth ∧
      ∀ index : Nat, (∃ column, w.levels[index]? = some column ∧ id ∈ column) ↔ index = depth) ∧
    (∀ (index : Nat) column, w.levels[index]? = some column → ∀ id ∈ column, w.SoundJob id →
      (∀ other ∈ column, w.SoundJob other) ∧
      ∀ (later : Nat) broken, w.levels[later]? = some broken →
        (∃ other ∈ broken, ¬w.SoundJob other) → index < later) ∧
    (w.SoundNeeds → ∀ (index : Nat) column, w.levels[index]? = some column →
      column ≠ [] ∧ ∀ id, id ∈ column ↔ id ∈ w.jobs.keys ∧ HasDepth w.needsOf id index) := by
  refine ⟨fun id h => ?_, fun index column hcolumn id hid h => ?_, fun h index column hcolumn => ?_⟩
  · obtain ⟨depth, hdepth⟩ := h.exists_hasDepth
    refine ⟨depth, fun other => ?_, hdepth.isGreatest, fun index => h.mem_column_iff hdepth⟩
    constructor
    · exact fun hother => hother.unique hdepth
    · rintro rfl
      exact hdepth
  · obtain ⟨depth, hdepth⟩ := h.exists_hasDepth
    have hindex : index = depth := (h.mem_column_iff hdepth).mp ⟨column, hcolumn, hid⟩
    refine ⟨fun other hother => h.soundJob_of_mem_column hdepth hindex.le hcolumn hother, ?_⟩
    rintro later broken hlater ⟨other, hother, hbroken⟩
    -- a column with a broken job that is not later would hold sound jobs only
    by_contra hle
    exact hbroken (h.soundJob_of_mem_column hdepth (by omega) hlater hother)
  · obtain ⟨hleft, hnext⟩ := w.levelling_levels.eq_nextColumn hcolumn
    exact ⟨hnext ▸ nextColumn_ne_nil _ _ hleft, fun id => h.mem_column_iff hcolumn⟩

/-- Jobs of which some need themselves or a missing job, be it through others, and come first. -/
def partlyBroken : Workflow :=
  { jobs := .ofList [("loop", { needs := some (.one "loop") }),
      ("deploy", { needs := some (.many ["test", "loop"]) }),
      ("lost", { needs := some (.one "ghost") }),
      ("test", { needs := some (.many ["build", "lint", "build"]) }),
      ("lint", { needs := some (.one "build") }), ("build", {})] }

/-- The jobs of the last workflow that are sound. -/
def soundPart : Workflow :=
  { jobs := .ofList [("test", { needs := some (.many ["build", "lint", "build"]) }),
      ("lint", { needs := some (.one "build") }), ("build", {})] }

/-- The job at depth 2 stands in the third column, though three broken jobs are listed before it. -/
theorem levels_of_soundJobs_partlyBroken :
    (partlyBroken.levels =
        [["build"], ["lint"], ["test"], ["loop"], ["deploy"], ["lost"]] ∧
      partlyBroken.SoundJob "test" ∧ ¬partlyBroken.SoundJob "deploy") ∧
    (∃ depth : Nat,
      (∀ other, HasDepth partlyBroken.needsOf "test" other ↔ other = depth) ∧
      IsGreatest {length | Chain partlyBroken.needsOf "test" length} depth ∧
      ∀ index : Nat, (∃ column, partlyBroken.levels[index]? = some column ∧
        "test" ∈ column) ↔ index = depth) ∧
    (∀ (later : Nat) broken, partlyBroken.levels[later]? = some broken →
      (∃ other ∈ broken, ¬partlyBroken.SoundJob other) → 2 < later) ∧
    soundPart.SoundNeeds ∧
    ∀ id, id ∈ ["lint"] ↔
      id ∈ soundPart.jobs.keys ∧ HasDepth soundPart.needsOf id 1 := by
  have htest : partlyBroken.SoundJob "test" :=
    (by decide +kernel : partlyBroken.SoundBelow 3 "test").soundJob
  have hdeploy : ¬partlyBroken.SoundJob "deploy" := by
    intro h
    have hneed : "loop" ∈ partlyBroken.needsOf "deploy" := by decide +kernel
    have hloop : "loop" ∈ partlyBroken.needsOf "loop" := by decide +kernel
    exact (h.of_mem_needsOf hneed).acyclic "loop" .refl (.single hloop)
  have hlevels : partlyBroken.levels =
      [["build"], ["lint"], ["test"], ["loop"], ["deploy"], ["lost"]] := by decide +kernel
  have hbelow : ∀ id ∈ soundPart.jobs.keys, soundPart.SoundBelow 3 id := by
    decide +kernel
  have hsound : soundPart.SoundNeeds :=
    soundNeeds_iff_forall_soundJob.mpr fun id hid => (hbelow id hid).soundJob
  have hcolumn : soundPart.levels[1]? = some ["lint"] := by decide +kernel
  exact ⟨⟨hlevels, htest, hdeploy⟩,
    (levels_of_soundJobs partlyBroken).1 "test" htest,
    ((levels_of_soundJobs partlyBroken).2.1 2 ["test"] (by rw [hlevels]; rfl) "test"
      (List.mem_singleton_self "test") htest).2,
    hsound, ((levels_of_soundJobs soundPart).2.2 hsound 1 ["lint"] hcolumn).2⟩

end Workflow

end CiWorkflow
