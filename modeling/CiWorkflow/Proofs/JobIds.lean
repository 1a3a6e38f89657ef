import CiWorkflow.Proofs.EditRuns
import Mathlib.Order.Bounds.Basic
/-!
# Ids of New Jobs

The id of a new job is the first one of `job-1`, `job-2`, … that is not taken. A search through all
of them knows of no number to stop at, whereas `freshJobId` looks at one more id than are taken.
Here the search is a relation without a bound, and it is shown to end where `freshJobId` does.

This complements `FreshName`, where some name is free among as many as are taken and one more.

## Layers

- **The search** passes over ids that are taken, and ends with the least number that is free.
- **New ids** are those with which it ends when it begins with one.
-/

namespace CiWorkflow

namespace Workflow

/-- The id of a job that is called by a number. -/
def jobId (n : Nat) : String := "job-" ++ toString n

/-! ## The search -/

/-- Ids are tried one by one as long as they are taken. -/
inductive IdSearch (taken : List String) : Nat → Nat → Prop where
  | free {n : Nat} (hfree : jobId n ∉ taken) : IdSearch taken n n
  /-- The id is taken, and the next one is tried. -/
  | next {n last : Nat} (htaken : jobId n ∈ taken) (hrest : IdSearch taken (n + 1) last) :
      IdSearch taken n last

variable {taken : List String} {first last : Nat}

/-- Whatever the search ends with is the least free number, by induction on the search. -/
theorem IdSearch.isLeast (h : IdSearch taken first last) :
    IsLeast {n | first ≤ n ∧ jobId n ∉ taken} last := by
  induction h with
  | @free n hfree => exact ⟨⟨Nat.le_refl n, hfree⟩, fun m hm => hm.1⟩
  | @next n last htaken _ ih =>
    obtain ⟨⟨hle, hfree⟩, hleast⟩ := ih
    refine ⟨⟨Nat.le_of_succ_le hle, hfree⟩, ?_⟩
    rintro m ⟨hm, hnot⟩
    -- the id that is passed over is taken, so a free one comes after it
    have hne : n ≠ m := by
      rintro rfl
      exact hnot htaken
    exact hleast ⟨Nat.lt_of_le_of_ne hm hne, hnot⟩

/-- The search gets to the least free number, since all before it are taken. -/
theorem idSearch_of_isLeast (h : IsLeast {n | first ≤ n ∧ jobId n ∉ taken} last) :
    IdSearch taken first last := by
  obtain ⟨⟨hle, hfree⟩, hleast⟩ := h
  have htaken : ∀ m, first ≤ m → m < last → jobId m ∈ taken := by
    intro m hm hlt
    refine Classical.byContradiction fun hnot => ?_
    exact Nat.not_le_of_lt hlt (hleast ⟨hm, hnot⟩)
  clear hleast
  -- backwards from the last number, where nothing is left to pass over
  induction hle using Nat.decreasingInduction with
  | self => exact .free hfree
  | of_succ n hn ih =>
    refine .next (htaken n (Nat.le_refl n) hn) (ih fun m hm => ?_)
    exact htaken m (Nat.le_of_succ_le hm)

theorem idSearch_iff_isLeast :
    IdSearch taken first last ↔ IsLeast {n | first ≤ n ∧ jobId n ∉ taken} last :=
  ⟨IdSearch.isLeast, idSearch_of_isLeast⟩

/-! ## New ids -/

/-- **A new id has the least number that is free.** Whatever ids are taken, some of them more than
once or not, the search that begins with `job-1` comes to one end only. There it has found the new
id, whose number is the least of all that are free and exceeds the count of the taken ids by one at
most. -/
theorem freshJobId_isLeast (taken : List String) :
    ∃ n, freshJobId taken = jobId n ∧ IsLeast {n | 1 ≤ n ∧ jobId n ∉ taken} n ∧
      n ≤ taken.length + 1 ∧ ∀ last, IdSearch taken 1 last ↔ last = n := by
  obtain ⟨before, hbound, hname, hfree, htaken⟩ := exists_fresh_eq taken _ jobId_injective
  have hleast : IsLeast {n | 1 ≤ n ∧ jobId n ∉ taken} (before + 1) := by
    refine ⟨⟨Nat.le_add_left 1 before, hfree⟩, ?_⟩
    rintro n ⟨hone, hnot⟩
    obtain ⟨m, rfl⟩ := Nat.exists_eq_add_of_le' hone
    refine Nat.le_of_not_lt fun hlt => ?_
    exact hnot (htaken m (Nat.lt_of_succ_lt_succ hlt))
  refine ⟨before + 1, hname, hleast, Nat.succ_le_succ hbound, fun last => ?_⟩
  rw [idSearch_iff_isLeast]
  exact ⟨fun h => h.unique hleast, fun h => h ▸ hleast⟩

example : freshJobId ["job-1", "test", "job-3", "job-1"] = "job-2" := by decide +kernel

end Workflow

end CiWorkflow
