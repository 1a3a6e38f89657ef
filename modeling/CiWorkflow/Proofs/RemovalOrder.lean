import CiWorkflow.Proofs.EditRuns
/-!
# The Order of Removals

A job that is removed is taken out of the needs of all others, and where something is taken out the
shape of the needs is chosen anew: a list may become a single id, and a single id nothing. So two
removals meet other shapes on the way, depending on which of them comes first. In the end the shape
only says what is left of the needs and whether anything was taken out, and neither depends on the
order.

## Layers

- **Needs of a job** after one removal and after two.
- **Workflows** after two removals.
-/

namespace CiWorkflow.Workflow

variable {w : Workflow} {a b : String} {j : Job}

/-! ## Needs of a job -/

theorem withoutNeed_of_not_mem (h : a ∉ j.needsList) : withoutNeed a j = j := by
  rw [withoutNeed, if_neg (by simpa using h)]

theorem withoutNeed_of_mem (h : a ∈ j.needsList) :
    withoutNeed a j = { j with needs := Needs.ofList (j.needsList.filter (· != a)) } := by
  rw [withoutNeed, if_pos (by simpa using h)]

/-- Where a job needs one of two others, its needs without both have the shortest shape of what is
left; where it needs neither, they are as they were. -/
theorem withoutNeed_withoutNeed (a b : String) (j : Job) :
    withoutNeed b (withoutNeed a j) =
      if a ∈ j.needsList ∨ b ∈ j.needsList then
        { j with needs := Needs.ofList (j.needsList.filter fun n => n != a && n != b) }
      else j := by
  have hboth : (j.needsList.filter (· != a)).filter (· != b) =
      j.needsList.filter fun n => n != a && n != b := by
    rw [List.filter_filter]
    exact List.filter_congr fun _ _ => Bool.and_comm ..
  by_cases hsecond : b ∈ (withoutNeed a j).needsList
  · -- the second removal chooses the shape, whatever the first one made of it
    have hb : b ∈ j.needsList := by
      rw [needsList_withoutNeed] at hsecond
      exact (List.mem_filter.mp hsecond).1
    rw [withoutNeed_of_mem hsecond, needsList_withoutNeed, hboth, if_pos (.inr hb)]
    unfold withoutNeed
    split <;> rfl
  · -- the first removal has left nothing for the second one
    rw [withoutNeed_of_not_mem hsecond]
    rw [needsList_withoutNeed] at hsecond
    rw [← hboth, KeyedList.filter_bne_eq_self hsecond]
    by_cases ha : a ∈ j.needsList
    · rw [if_pos (.inl ha), withoutNeed_of_mem ha]
    · rw [KeyedList.filter_bne_eq_self ha] at hsecond
      rw [if_neg (not_or.mpr ⟨ha, hsecond⟩), withoutNeed_of_not_mem ha]

/-- Taking out two needs of a job has the same effect either way around, also on the shape of what
is left. -/
theorem withoutNeed_comm (a b : String) (j : Job) :
    withoutNeed b (withoutNeed a j) = withoutNeed a (withoutNeed b j) := by
  rw [withoutNeed_withoutNeed, withoutNeed_withoutNeed]
  simp only [or_comm, Bool.and_comm]

/-! ## Workflows -/

theorem mem_keys_of_mem_keys_removeJob {id : String} (h : id ∈ (w.removeJob a).jobs.keys) :
    id ∈ w.jobs.keys := by
  rw [keys_removeJob] at h
  exact (List.mem_filter.mp h).1

/-- Two jobs that are there are taken out of the jobs and of the needs of all others. -/
theorem removeJob_removeJob_of_mem (ha : a ∈ w.jobs.keys) (hb : b ∈ w.jobs.keys) (hne : a ≠ b) :
    (w.removeJob a).removeJob b =
      { w with jobs := ((w.jobs.erase a).erase b).mapValues fun j =>
          withoutNeed b (withoutNeed a j) } := by
  have hstays : b ∈ (w.removeJob a).jobs.keys := by
    rw [keys_removeJob, List.mem_filter]
    exact ⟨hb, by simpa using hne.symm⟩
  rw [removeJob_of_mem hstays, removeJob_of_mem ha]
  dsimp only
  rw [KeyedList.erase_mapValues, KeyedList.mapValues_mapValues]

/-- **Removals commute.** The same workflow is left after two jobs are removed, whichever is removed
first, with the order of its jobs and the shape of all needs; this is so for ids of no job as well,
and for ids that needs mention in whatever shape. After a job is removed no job needs it, and all
other jobs that did not need it are as they were. -/
theorem removeJob_comm (w : Workflow) (a b : String) :
    (w.removeJob a).removeJob b = (w.removeJob b).removeJob a ∧
    (a ∈ w.jobs.keys → ∀ id, a ∉ (w.removeJob a).needsOf id) ∧
    ∀ id j, id ≠ a → w.jobs.get? id = some j → a ∉ j.needsList →
      (w.removeJob a).jobs.get? id = some j := by
  refine ⟨?_, fun ha id => ?_, fun id j hid hj hfree => ?_⟩
  · by_cases ha : a ∈ w.jobs.keys
    · by_cases hb : b ∈ w.jobs.keys
      · by_cases heq : a = b
        · rw [heq]
        · rw [removeJob_removeJob_of_mem ha hb heq, removeJob_removeJob_of_mem hb ha (Ne.symm heq),
            KeyedList.erase_comm]
          simp only [withoutNeed_comm]
      · -- an id of no job does not become one by a removal
        rw [removeJob_of_not_mem hb,
          removeJob_of_not_mem fun h => hb (mem_keys_of_mem_keys_removeJob h)]
    · rw [removeJob_of_not_mem ha,
        removeJob_of_not_mem fun h => ha (mem_keys_of_mem_keys_removeJob h)]
  · rw [needsOf_removeJob ha]
    split
    · exact List.not_mem_nil
    · simp
  · by_cases ha : a ∈ w.jobs.keys
    · rw [get?_removeJob ha, if_neg hid.symm, hj, Option.map_some, withoutNeed_of_not_mem hfree]
    · rw [removeJob_of_not_mem ha, hj]

end CiWorkflow.Workflow
