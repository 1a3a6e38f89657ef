import CiWorkflow.FreshName
import CiWorkflow.Proofs.Verdict
import CiWorkflow.Workflow.Text
/-!
# Filters as They Are Checked and Listed

A filter of a trigger is read twice. The checks take it apart into items, of which each has to be a
text; what is shown of a trigger lists the texts of the filter. Both look through the tags of items.
Through a tag before the filter itself only the checks look, so that a text behind a tag passes them
and is not listed. All other filters that pass are listed item by item.

## Layers

- **Places**: a place within a trigger tells which trigger it is.
- **Accepted filters**: no error stands at a filter exactly where it has nothing but texts.
- **Listed filters**: the texts in a list are those of the items, unless the filter has a tag.
- **Shown triggers**: what is listed is shown, and what is not listed might as well not be there.
-/

namespace CiWorkflow

open Yaml (Value)

namespace Lint

/-! ## Places -/

/-- The place of a filter of a trigger. -/
def filterPath (index : Nat) (event key : String) : String :=
  triggerPath index event ++ "." ++ key

/-- The number of a trigger is read off every place within it. -/
theorem index_of_triggerPath {m n : Nat} {event event' rest rest' : String}
    (h : triggerPath m event ++ rest = triggerPath n event' ++ rest') : m = n := by
  have hchars := congrArg String.toList h
  simp only [triggerPath, String.append_assoc, String.toList_append] at hchars
  -- the number ends where the bracket is closed
  refine eq_of_toString_append_eq (List.append_cancel_left hchars) ?_ ?_
  · simp
  · simp

/-! ## Accepted filters -/

/-- Every diagnostic of a filter stands at its key. -/
theorem path_of_mem_checkTextFilter {event path key name : String} {config : TriggerConfig}
    {d : Diagnostic} (h : d ∈ checkTextFilter event path config key name) :
    d.path = path ++ "." ++ key := by
  unfold checkTextFilter at h
  split at h
  · obtain ⟨_, rfl⟩ := mem_report.mp h
    rfl
  · cases h

theorem path_of_mem_checkTypes {event path : String} {config : TriggerConfig} {d : Diagnostic}
    (h : d ∈ checkTypes event path config) : d.path = path ++ ".types" := by
  unfold checkTypes at h
  split at h
  · obtain ⟨_, rfl⟩ := mem_report.mp h
    rfl
  · obtain ⟨activity, _, hactivity⟩ := List.mem_flatMap.mp h
    obtain ⟨_, rfl⟩ := mem_report.mp hactivity
    split
    · rfl
    · rfl
  · cases h

/-- A push and a pull request have four filters of texts. -/
def HasTextFilter (t : Trigger) (key : String) : Prop :=
  (t.event = "push" ∨ t.event = "pull_request") ∧
    key ∈ ["branches", "tags", "paths", "paths-ignore"]

/-- At a filter of texts nothing is told but that it has something else. -/
theorem mem_checkTextFilter_of_path {index : Nat} {t : Trigger} {key : String} {d : Diagnostic}
    (hfilter : HasTextFilter t key) (hd : d ∈ checkTrigger index t)
    (hpath : d.path = filterPath index t.event key) :
    ∃ name, d ∈ checkTextFilter t.event (triggerPath index t.event) t.config key name := by
  obtain ⟨hevent, hkey⟩ := hfilter
  unfold checkTrigger at hd
  simp only [List.mem_append] at hd
  -- the event is known, it is neither a run of workflows nor a schedule, and types are no filter
  obtain (((hunknown | hfilters) | htypes) | hworkflows) | hcron := hd
  · have hnot := (mem_report.mp hunknown).1
    rcases hevent with hevent | hevent <;> simp [hevent, Event.isKnown, Event.known] at hnot
  · unfold checkTextFilters at hfilters
    split at hfilters
    · obtain ⟨f, _, hf⟩ := List.mem_flatMap.mp hfilters
      have hsame := (path_of_mem_checkTextFilter hf).symm.trans hpath
      have hname : f.1 = key := (String.append_right_inj _).mp hsame
      exact ⟨f.2, hname ▸ hf⟩
    · cases hfilters
  · have hsame := (path_of_mem_checkTypes htypes).symm.trans hpath
    rw [filterPath, String.append_assoc, String.append_right_inj] at hsame
    simp only [List.mem_cons, List.not_mem_nil, or_false] at hkey
    rcases hkey with rfl | rfl | rfl | rfl <;> exact absurd hsame (by decide)
  · have hnot := (mem_report.mp hworkflows).1
    rcases hevent with hevent | hevent <;> simp [hevent] at hnot
  · unfold checkCron at hcron
    rcases hevent with hevent | hevent <;> simp [hevent, Trigger.scheduleEvent] at hcron

end Lint

namespace Workflow

open Lint

/-- The checks tell of no error at a filter of a trigger. -/
def AcceptsFilter (w : Workflow) (options : LintOptions) (index : Nat) (t : Trigger)
    (key : String) : Prop :=
  ∀ d ∈ w.lintWith options, d.isError = true → d.path ≠ filterPath index t.event key

variable {w : Workflow} {options : LintOptions} {index : Nat} {t : Trigger} {key : String}

/-- What is told at a filter is told of its own trigger. -/
theorem mem_checkTrigger_of_path (ht : w.triggers[index]? = some t) {d : Diagnostic}
    (hd : d ∈ w.lintWith options) (hpath : d.path = filterPath index t.event key) :
    d ∈ checkTrigger index t := by
  rcases List.mem_append.mp hd with htriggers | hjobs
  · unfold checkTriggers at htriggers
    split at htriggers
    · rename_i hnone
      simp [List.isEmpty_iff.mp hnone] at ht
    · obtain ⟨ds, hds, hd⟩ := List.mem_flatten.mp htriggers
      obtain ⟨i, hi, rfl⟩ := List.mem_mapIdx.mp hds
      obtain ⟨rest, hrest⟩ := within_of_mem_checkTrigger hd
      have hindex : i = index := by
        rw [hpath, filterPath, String.append_assoc] at hrest
        exact (index_of_triggerPath hrest).symm
      subst hindex
      rw [List.getElem?_eq_getElem hi] at ht
      exact Option.some.inj ht ▸ hd
  · -- places within jobs start with another letter
    obtain ⟨rest, hrest⟩ := within_of_mem_checkJobs hjobs
    have hboth := congrArg (fun path => path.toList.head?) (hpath.symm.trans hrest)
    simp [filterPath, triggerPath] at hboth

theorem mem_lintWith_of_mem_checkTrigger (ht : w.triggers[index]? = some t) {d : Diagnostic}
    (hd : d ∈ checkTrigger index t) : d ∈ w.lintWith options := by
  obtain ⟨hindex, rfl⟩ := List.getElem?_eq_some_iff.mp ht
  have hsome : ¬w.triggers.isEmpty = true := fun hnone => by
    simp [List.isEmpty_iff.mp hnone] at hindex
  refine List.mem_append_left _ ?_
  rw [checkTriggers, if_neg hsome, List.mem_flatten]
  exact ⟨_, List.mem_mapIdx.mpr ⟨index, hindex, rfl⟩, hd⟩

/-- A filter is accepted exactly where it has nothing but texts. -/
theorem acceptsFilter_iff (ht : w.triggers[index]? = some t) (hfilter : HasTextFilter t key) :
    w.AcceptsFilter options index t key ↔ t.Filtered key TextsOnly := by
  constructor
  · intro haccepts
    have hpair : ∃ name, (key, name) ∈ textFilters := by
      have hkey := hfilter.2
      simp only [List.mem_cons, List.not_mem_nil, or_false] at hkey
      rcases hkey with rfl | rfl | rfl | rfl <;> simp [textFilters]
    obtain ⟨name, hname⟩ := hpair
    have hnone :
        NoErrors (checkTextFilter t.event (triggerPath index t.event) t.config key name) := by
      -- an error of the filter would stand at its place
      intro d hd
      by_contra herror
      have htrigger : d ∈ checkTrigger index t := by
        have htexts : d ∈ checkTextFilters t.event (triggerPath index t.event) t.config := by
          rw [checkTextFilters, if_pos (by simpa using hfilter.1)]
          exact List.mem_flatMap.mpr ⟨(key, name), hname, hd⟩
        simp [checkTrigger, htexts]
      exact haccepts d (mem_lintWith_of_mem_checkTrigger ht htrigger) (by simpa using herror)
        (path_of_mem_checkTextFilter hd)
    exact noErrors_checkTextFilter.mp hnone
  · -- and nothing else does, since no other check of any trigger or job stands there
    intro htexts d hd herror hpath
    obtain ⟨name, hmem⟩ :=
      mem_checkTextFilter_of_path hfilter (mem_checkTrigger_of_path ht hd hpath) hpath
    have hnone := noErrors_checkTextFilter.mpr htexts d hmem
    rw [herror] at hnone
    cases hnone

end Workflow

/-! ## Listed filters -/

/-- A value stands behind a tag. -/
def Yaml.Value.IsTagged (v : Value) : Prop := ∃ tag u, v = .tagged tag u

namespace TriggerConfig

variable {config : TriggerConfig} {key : String} {v : Value}

/-- What stands behind a tag is listed nowhere, be it a text. -/
theorem strings_of_tagged (hv : config.get? key = some v) (htag : v.IsTagged) :
    config.strings key = [] := by
  obtain ⟨tag, u, rfl⟩ := htag
  rw [strings, hv]

/-- Without a tag the texts of a filter are those of its items. -/
theorem strings_of_not_tagged (hv : config.get? key = some v) (htag : ¬v.IsTagged) :
    config.strings key = (Lint.filterItems v).filterMap Value.asString? := by
  rw [strings, hv]
  cases v with
  | tagged tag u => exact absurd ⟨tag, u, rfl⟩ htag
  | _ => rfl

/-- Without a tag no item gets lost, since all of them are texts. -/
theorem map_some_strings (hv : config.get? key = some v) (htag : ¬v.IsTagged)
    (htexts : TextsOnly v) :
    (config.strings key).map some = (Lint.filterItems v).map Value.asString? := by
  rw [strings_of_not_tagged hv htag, List.map_filterMap_some_eq_filter_map_isSome,
    List.filter_eq_self]
  intro text htext
  obtain ⟨item, hitem, rfl⟩ := List.mem_map.mp htext
  exact List.all_eq_true.mp (Lint.textsOnly_iff.mpr htexts) item hitem

/-- There is one text for every item exactly where the filter has no tag. -/
theorem length_strings_eq_iff (hv : config.get? key = some v) (htexts : TextsOnly v) :
    (config.strings key).length = (Lint.filterItems v).length ↔ ¬v.IsTagged := by
  constructor
  · rintro hlength ⟨tag, u, rfl⟩
    rw [strings_of_tagged hv ⟨tag, u, rfl⟩] at hlength
    cases hlength
  · intro htag
    simpa using congrArg List.length (map_some_strings hv htag htexts)

/-- What is taken out is listed no more, and nothing else is touched. -/
theorem strings_erase (config : TriggerConfig) (key other : String) :
    TriggerConfig.strings (config.erase key) other =
      if key = other then [] else config.strings other := by
  unfold strings
  rw [KeyedList.get?_erase]
  rcases Classical.em (key = other) with hsame | hother
  · rw [if_pos hsame, if_pos hsame]
  · rw [if_neg hother, if_neg hother]

end TriggerConfig

/-! ## Shown triggers -/

/-- A piece of a list stands in the text that is made of the list. -/
theorem infix_intercalate {between piece : String} {pieces : List String} (h : piece ∈ pieces) :
    piece.toList <:+: (between.intercalate pieces).toList := by
  induction pieces with
  | nil => cases h
  | cons first rest ih =>
    rcases Classical.em (rest = []) with rfl | hrest
    · rw [List.mem_singleton.mp h, String.intercalate_singleton]
    · rw [String.intercalate_cons_of_ne_nil hrest, String.toList_append, String.toList_append]
      rcases List.mem_cons.mp h with rfl | hlater
      · exact ((List.prefix_append _ _).trans (List.prefix_append _ _)).isInfix
      · exact (ih hlater).trans (List.suffix_append _ _).isInfix

namespace Trigger

/-- A trigger without one of its filters. -/
def withoutFilter (t : Trigger) (key : String) : Trigger :=
  { t with config := t.config.erase key }

variable {t : Trigger} {key : String}

/-- Nothing is listed of a filter that is not there, and of all others what was listed. -/
theorem strings_withoutFilter (h : t.config.strings key = []) (other : String) :
    (t.withoutFilter key).config.strings other = t.config.strings other := by
  rw [withoutFilter, TriggerConfig.strings_erase]
  split
  · next heq => rw [← heq, h]
  · rfl

/-- The label does not show a filter that is not listed. -/
theorem label_withoutFilter (h : t.config.strings key = []) :
    (t.withoutFilter key).label = t.label := by
  unfold label
  simp only [strings_withoutFilter h]
  rfl

/-- A filter that is not listed is not described either. Only the expression of a schedule is shown
without being listed. -/
theorem description_withoutFilter (h : t.config.strings key = []) (hcron : key ≠ "cron") :
    (t.withoutFilter key).description = t.description := by
  have hsame : (t.withoutFilter key).config.cron? = t.config.cron? := by
    rw [TriggerConfig.cron?, withoutFilter, KeyedList.get?_erase, if_neg hcron]
    rfl
  unfold description
  simp only [strings_withoutFilter h, hsame]
  rfl

/-- The texts of a filter stand side by side in the description. -/
theorem infix_description (hkey : key ∈ ["branches", "tags", "paths", "types"])
    (h : t.config.strings key ≠ []) :
    (key ++ ": " ++ ", ".intercalate (t.config.strings key)).toList <:+: t.description.toList := by
  -- what is not empty is a part of the description, which joins all of its parts
  have hpart : key ++ ": " ++ ", ".intercalate (t.config.strings key) ∈
      part key (t.config.strings key) := by
    simp [part, h]
  apply infix_intercalate
  simp only [List.mem_cons, List.not_mem_nil, or_false] at hkey
  simp only [List.mem_append]
  rcases hkey with rfl | rfl | rfl | rfl
  · exact .inl (.inl (.inl (.inl (.inr hpart))))
  · exact .inl (.inl (.inl (.inr hpart)))
  · exact .inl (.inl (.inr hpart))
  · exact .inl (.inr hpart)

end Trigger

namespace Workflow

open Lint

/-- **Filters that are accepted are listed item by item, unless they stand behind a tag.** The
checks accept a filter of a push or a pull request exactly where it has nothing but texts. Of such a
filter as many texts are listed as it has items exactly where it has no tag itself. Then they are
the texts of its items in their order, and where there are any, the description of the trigger shows
them, but for paths that are ignored. If the filter has a tag, then nothing is listed of it, and the
trigger is shown as if it had no such filter. -/
theorem acceptedFilter_listed_iff (w : Workflow) (options : LintOptions) {index : Nat} {t : Trigger}
    {key : String} {v : Value} (ht : w.triggers[index]? = some t)
    (hevent : t.event = "push" ∨ t.event = "pull_request")
    (hkey : key ∈ ["branches", "tags", "paths", "paths-ignore"])
    (hv : t.config.get? key = some v) (hnull : v.untagged ≠ .null) :
    (w.AcceptsFilter options index t key ↔ TextsOnly v) ∧
    (w.AcceptsFilter options index t key →
      ((t.config.strings key).length = (filterItems v).length ↔ ¬v.IsTagged) ∧
      (¬v.IsTagged →
        (t.config.strings key).map some = (filterItems v).map Value.asString? ∧
        (key ≠ "paths-ignore" → t.config.strings key ≠ [] →
          (key ++ ": " ++ ", ".intercalate (t.config.strings key)).toList <:+:
            t.description.toList)) ∧
      (v.IsTagged → t.config.strings key = [] ∧ (t.withoutFilter key).label = t.label ∧
        (t.withoutFilter key).description = t.description)) := by
  have haccepts : w.AcceptsFilter options index t key ↔ TextsOnly v := by
    rw [acceptsFilter_iff ht ⟨hevent, hkey⟩]
    exact filtered_of_some (filter?_eq_some_iff.mpr ⟨hv, hnull⟩)
  refine ⟨haccepts, fun haccepted => ?_⟩
  have htexts : TextsOnly v := haccepts.mp haccepted
  refine ⟨TriggerConfig.length_strings_eq_iff hv htexts, fun htag => ⟨?_, ?_⟩, fun htag => ?_⟩
  · exact TriggerConfig.map_some_strings hv htag htexts
  · intro hshown hsome
    refine Trigger.infix_description ?_ hsome
    simp only [List.mem_cons, List.not_mem_nil, or_false] at hkey ⊢
    tauto
  · -- nothing is listed behind a tag, and what shows a trigger goes by what is listed
    have hnothing := TriggerConfig.strings_of_tagged hv htag
    have hcron : key ≠ "cron" := by
      rintro rfl
      exact absurd hkey (by decide)
    exact ⟨hnothing, Trigger.label_withoutFilter hnothing,
      Trigger.description_withoutFilter hnothing hcron⟩

/-- A push to two branches, of which one has a tag, with a tag before its paths. -/
def partlyTagged : Trigger :=
  ⟨"push", .ofList [("branches", .sequence [.string "main", .tagged "t" (.string "dev")]),
    ("paths", .tagged "t" (.string "src"))]⟩

/-- A workflow without jobs that starts with such a push. -/
def onPartlyTagged : Workflow :=
  { on := .map (.singleton "push" (ValueMap.toValue partlyTagged.config)) }

/-- One filter has a tag on an item, the other one on the whole. -/
theorem acceptedFilter_listed_iff_partlyTagged :
    onPartlyTagged.triggers[0]? = some partlyTagged ∧
    onPartlyTagged.AcceptsFilter {} 0 partlyTagged "branches" ∧
    (partlyTagged.config.strings "branches").map some = [some "main", some "dev"] ∧
    "branches: main, dev".toList <:+: partlyTagged.description.toList ∧
    onPartlyTagged.AcceptsFilter {} 0 partlyTagged "paths" ∧
    (partlyTagged.config.strings "paths").length ≠ 1 ∧
    (partlyTagged.withoutFilter "paths").description = partlyTagged.description := by
  have ht : onPartlyTagged.triggers[0]? = some partlyTagged := by decide +kernel
  have hbranches : ¬Value.IsTagged (.sequence [.string "main", .tagged "t" (.string "dev")]) := by
    rintro ⟨_, _, heq⟩
    cases heq
  have hlisted := @acceptedFilter_listed_iff onPartlyTagged {} 0 partlyTagged "branches"
    (.sequence [.string "main", .tagged "t" (.string "dev")]) ht (.inl rfl) (by simp)
    (by decide +kernel) (by simp [Value.untagged])
  have haccepted := hlisted.1.mpr (.inr ⟨_, rfl, by simp [IsText, Value.untagged]⟩)
  have htagged := @acceptedFilter_listed_iff onPartlyTagged {} 0 partlyTagged "paths"
    (.tagged "t" (.string "src")) ht (.inl rfl) (by simp) (by decide +kernel)
    (by simp [Value.untagged])
  have hpassed := htagged.1.mpr (.inl ⟨"src", rfl⟩)
  obtain ⟨-, hall, -⟩ := hlisted.2 haccepted
  obtain ⟨hcount, -, hnothing⟩ := htagged.2 hpassed
  refine ⟨ht, haccepted, (hall hbranches).1, ?_, hpassed, ?_, ?_⟩
  · exact (hall hbranches).2 (by decide) (by decide +kernel)
  · exact fun hlength => hcount.mp hlength ⟨"t", .string "src", rfl⟩
  · exact (hnothing ⟨"t", .string "src", rfl⟩).2.2

/-- A push to one branch, whose name has a tag. -/
def taggedBranch : Trigger := ⟨"push", .singleton "branches" (.tagged "t" (.string "main"))⟩

/-- A branch behind a tag passes the checks, and the trigger is shown without a branch. -/
theorem acceptedFilter_not_listed_taggedText :
    let text := "on:\n  push:\n    branches: !t main\njobs:\n  a:\n    steps: [\x7brun: x\x7d]\n"
    (Workflow.ofText text).problems = [] ∧
    (Workflow.ofText text).workflow.triggers = [taggedBranch] ∧
    (Workflow.ofText text).workflow.lint = [] ∧
    (filterItems (.tagged "t" (.string "main"))).length = 1 ∧
    (taggedBranch.config.strings "branches").length = 0 ∧
    taggedBranch.label = "push" ∧ taggedBranch.description = "push" := by
  refine ⟨?_, ?_, ?_, ?_, ?_, ?_, ?_⟩ <;> decide +kernel

end Workflow

end CiWorkflow
