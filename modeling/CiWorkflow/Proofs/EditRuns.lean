import CiWorkflow.Edit
/-!
# Runs of Edits

An edit is one of the changes of a workflow with all its arguments, and a run is any finite sequence
of them. What holds of every workflow of a run is shown for one edit, in the workflow that it is
applied to; that is also where it is said which edits are allowed.
-/

namespace CiWorkflow

/-- A change of a workflow. -/
inductive Edit where
  | addJob (needs : List String)
  | removeJob (id : String)
  | setNeeds (id : String) (needs : List String)
  | addTrigger (event : String)
  | setTriggers (triggers : List Trigger)
  | addStep (id : String) (step : Step)
  | updateStep (id : String) (index : Nat) (change : Step → Step)
  | removeStep (id : String) (index : Nat)

namespace Workflow

/-- The workflow after an edit. -/
def apply (w : Workflow) : Edit → Workflow
  | .addJob needs => (w.addJob needs).1
  | .removeJob id => w.removeJob id
  | .setNeeds id needs => w.setNeeds id needs
  | .addTrigger event => w.addTrigger event
  | .setTriggers triggers => w.setTriggers triggers
  | .addStep id step => w.addStep id step
  | .updateStep id index change => w.updateStep id index change
  | .removeStep id index => w.removeStep id index

/-- The workflows of a run: the one it begins with, and the one after every edit. -/
def history (w : Workflow) (edits : List Edit) : List Workflow := edits.scanl apply w

/-- Every edit of a run is allowed in the workflow to which it is applied. -/
def Admits (allowed : Workflow → Edit → Prop) : Workflow → List Edit → Prop
  | _, [] => True
  | w, e :: rest => allowed w e ∧ (w.apply e).Admits allowed rest

instance decidableAdmits {allowed : Workflow → Edit → Prop} [∀ w e, Decidable (allowed w e)] :
    (w : Workflow) → (edits : List Edit) → Decidable (w.Admits allowed edits)
  | _, [] => .isTrue trivial
  | w, e :: rest =>
    have : Decidable ((w.apply e).Admits allowed rest) := decidableAdmits (w.apply e) rest
    inferInstanceAs (Decidable (allowed w e ∧ (w.apply e).Admits allowed rest))

/-- What every allowed edit keeps is kept by every run of allowed edits. -/
theorem forall_mem_history {p : Workflow → Prop} {allowed : Workflow → Edit → Prop}
    (hstep : ∀ w e, p w → allowed w e → p (w.apply e)) {w : Workflow} (h : p w) {edits : List Edit}
    (hedits : w.Admits allowed edits) : ∀ v ∈ w.history edits, p v := by
  -- for every workflow at once, since the rest of a run begins with another one
  induction edits generalizing w with
  | nil =>
    intro v hv
    rwa [List.mem_singleton.mp hv]
  | cons e rest ih =>
    obtain ⟨hallowed, hrest⟩ := hedits
    intro v hv
    rw [history, List.scanl_cons, List.mem_cons] at hv
    rcases hv with rfl | hv
    · exact h
    · exact ih (hstep w e h hallowed) hrest v hv

/-! ## Jobs after an edit -/

variable {w : Workflow} {id : String}

/-- Different numbers make different ids. -/
theorem jobId_injective (m n : Nat)
    (h : "job-" ++ toString (m + 1) = "job-" ++ toString (n + 1)) : m = n := by
  have htext : toString (m + 1) = toString (n + 1) := String.append_right_inj _ |>.mp h
  exact Nat.succ_inj.mp (eq_of_toString_eq htext)

/-- The id of a new job is not taken. -/
theorem freshJobId_not_mem (taken : List String) : freshJobId taken ∉ taken :=
  fresh_not_mem _ _ jobId_injective

/-- Ids of new jobs are numbered from one. -/
theorem exists_freshJobId_eq (taken : List String) :
    ∃ n : Nat, freshJobId taken = "job-" ++ toString (n + 1) := by
  obtain ⟨n, _, hname, _⟩ := exists_fresh_eq taken _ jobId_injective
  exact ⟨n, hname⟩

/-- A new job has one step and the needs that are given, and all other jobs are as before. -/
theorem get?_addJob (w : Workflow) (needs : List String) (id : String) :
    (w.addJob needs).1.jobs.get? id =
      if freshJobId w.jobs.keys = id then
        some (singleStep "echo \"Hello, World!\"" (Needs.ofList needs))
      else w.jobs.get? id :=
  KeyedList.get?_insert ..

theorem keys_addJob (w : Workflow) (needs : List String) :
    (w.addJob needs).1.jobs.keys = w.jobs.keys ++ [freshJobId w.jobs.keys] := by
  show (w.jobs.insert _ _).keys = _
  rw [KeyedList.keys_insert, if_neg (freshJobId_not_mem w.jobs.keys)]

/-- Removing what is not there changes nothing, not even the needs that name it. -/
theorem removeJob_of_not_mem (h : id ∉ w.jobs.keys) : w.removeJob id = w := by
  have hmissing : ¬w.jobs.contains id = true := by rwa [KeyedList.contains_iff]
  rw [removeJob, if_neg hmissing]

theorem removeJob_of_mem (h : id ∈ w.jobs.keys) :
    w.removeJob id = { w with jobs := (w.jobs.erase id).mapValues (withoutNeed id) } := by
  rw [removeJob, if_pos (KeyedList.contains_iff.mpr h)]

/-- The jobs that are left lose their need for the removed one. -/
theorem get?_removeJob (h : id ∈ w.jobs.keys) (other : String) :
    (w.removeJob id).jobs.get? other =
      if id = other then none else (w.jobs.get? other).map (withoutNeed id) := by
  rw [removeJob_of_mem h, KeyedList.get?_mapValues, KeyedList.get?_erase]
  split <;> rfl

theorem keys_removeJob (w : Workflow) (id : String) :
    (w.removeJob id).jobs.keys = w.jobs.keys.filter (· != id) := by
  rcases Classical.em (id ∈ w.jobs.keys) with hmem | hmissing
  · rw [removeJob_of_mem hmem]
    exact (KeyedList.keys_mapWithKey _ _).trans (KeyedList.keys_erase _ _)
  · rw [removeJob_of_not_mem hmissing, KeyedList.filter_bne_eq_self hmissing]

theorem get?_updateJob (w : Workflow) (id other : String) (change : Job → Job) :
    (w.updateJob id change).jobs.get? other =
      (w.jobs.get? other).map fun job => if other = id then change job else job :=
  KeyedList.get?_modify ..

theorem keys_updateJob (w : Workflow) (id : String) (change : Job → Job) :
    (w.updateJob id change).jobs.keys = w.jobs.keys :=
  KeyedList.keys_modify ..

/-! ## Needs after an edit -/

@[simp] theorem needsList_singleStep (command : String) (needs : List String) :
    (singleStep command (Needs.ofList needs)).needsList = needs :=
  Needs.toList_ofList needs

/-- Whatever shape they get, the needs are those without the id. -/
theorem needsList_withoutNeed (id : String) (j : Job) :
    (withoutNeed id j).needsList = j.needsList.filter (· != id) := by
  unfold withoutNeed
  split
  · exact Needs.toList_ofList _
  · next hfree =>
    have hmem : id ∉ j.needsList := by simpa using hfree
    rw [KeyedList.filter_bne_eq_self hmem]

/-- The needs after a new job, as a graph. -/
theorem needsOf_addJob (w : Workflow) (needs : List String) (id : String) :
    (w.addJob needs).1.needsOf id =
      if freshJobId w.jobs.keys = id then needs else w.needsOf id := by
  unfold needsOf
  rw [get?_addJob]
  split
  · simp
  · rfl

/-- The needs after a removed job, as a graph: it has lost the id on both sides. -/
theorem needsOf_removeJob (h : id ∈ w.jobs.keys) (other : String) :
    (w.removeJob id).needsOf other =
      if id = other then [] else (w.needsOf other).filter (· != id) := by
  unfold needsOf
  rw [get?_removeJob h]
  split
  · rfl
  · cases w.jobs.get? other with
    | none => rfl
    | some job => exact needsList_withoutNeed id job

theorem needsOf_setNeeds (h : id ∈ w.jobs.keys) (needs : List String) (other : String) :
    (w.setNeeds id needs).needsOf other = if other = id then needs else w.needsOf other := by
  unfold needsOf
  rw [setNeeds, get?_updateJob]
  split
  · next heq =>
    subst heq
    obtain ⟨job, hjob⟩ := Option.ne_none_iff_exists'.mp fun hnone =>
      KeyedList.get?_eq_none_iff.mp hnone h
    rw [hjob]
    exact Needs.toList_ofList needs
  · cases w.jobs.get? other <;> rfl

/-- A change of one job that keeps its needs keeps the needs of all jobs. -/
theorem needsOf_updateJob {change : Job → Job} (h : ∀ j, (change j).needs = j.needs) :
    (w.updateJob id change).needsOf = w.needsOf := by
  funext other
  unfold needsOf
  rw [get?_updateJob]
  cases w.jobs.get? other with
  | none => rfl
  | some job =>
    show Job.needsList (if other = id then change job else job) = job.needsList
    split
    · rw [Job.needsList, h, Job.needsList]
    · rfl

end Workflow

end CiWorkflow
