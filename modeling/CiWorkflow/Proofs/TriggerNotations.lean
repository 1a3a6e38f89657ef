import CiWorkflow.Edit
import CiWorkflow.Layout
import CiWorkflow.Lint.Workflow
import CiWorkflow.Proofs.TriggerShapes
import Mathlib.Data.List.Forall2
/-!
# Notations for the Same Triggers

Events with their configuration are written as a mapping, as a list of this one mapping, or as a
list with an element for each event, which is a bare name where nothing is configured. All of these
stand for the same list of triggers, and nothing that is told or drawn of a workflow depends on
which of them is used, since the checks and the layout look at the list alone.

This complements `TriggerShapes`, where one shape is chosen for a list of triggers.

## Layers

- **Notations**: `On.Writes` relates a map of events to the shapes in which it may be written.
- **Events**: what one event expands to, and its records if it is a schedule.
- **Expansion**: every notation of a map expands to the triggers of the map.
- **Workflows** with the same triggers and jobs are checked and drawn alike.
-/

namespace CiWorkflow

open Yaml (Value)

/-! ## Notations -/

/-- An event may be written by its name alone if no mapping stands under it, and no list of records
under the schedule. -/
def Trigger.MayBeBare (event : String) (config : Value) : Prop :=
  (∀ entries, config ≠ .mapping entries) ∧
    ∀ records, config = .sequence records → event ≠ scheduleEvent

/-- An element of a list writes an event with what stands under it. -/
inductive OnEntry.Writes : String × Value → OnEntry → Prop where
  /-- As a mapping with this event alone. -/
  | configured (event : String) (config : Value) :
    Writes (event, config) (.configured (.singleton event config))
  /-- By its name. -/
  | bare {event : String} {config : Value} (hbare : Trigger.MayBeBare event config) :
    Writes (event, config) (.event event)

/-- A shape writes a map of events. -/
inductive On.Writes (m : ValueMap) : On → Prop where
  /-- As the mapping itself. -/
  | map : Writes m (.map m)
  /-- As a list of the one mapping. -/
  | listOfMap : Writes m (.list [.configured m])
  /-- As a list with one element for each event, in the same order. -/
  | listOfEvents {elements : List OnEntry}
    (helements : List.Forall₂ OnEntry.Writes m.entries elements) : Writes m (.list elements)

/-! ## Events -/

namespace Trigger

/-- The records of a schedule. What is no list is one record. -/
def cronRecords : Value → List Value
  | .sequence records => records
  | config => [config]

/-- The schedule of a record. -/
def ofRecord (record : Value) : Trigger := ⟨scheduleEvent, .ofValue record⟩

variable {event : String} {config : Value}

theorem expand_schedule (config : Value) :
    expand scheduleEvent config = (cronRecords config).map ofRecord := by
  cases config with
  | sequence records =>
    rw [expand, if_pos rfl]
    rfl
  | _ => rfl

/-- An event that is no schedule is not taken apart, be its configuration a list. -/
theorem expand_of_ne (h : event ≠ scheduleEvent) :
    expand event config = [⟨event, .ofValue config⟩] := by
  cases config with
  | sequence records => rw [expand, if_neg h]
  | _ => rfl

/-- An event may be written without its configuration where this has no part in the trigger. -/
theorem expand_of_mayBeBare (h : MayBeBare event config) : expand event config = [plain event] := by
  obtain ⟨hmapping, hschedule⟩ := h
  cases config with
  | mapping entries => exact absurd rfl (hmapping entries)
  | sequence records => exact expand_of_ne (hschedule records rfl)
  | _ => rfl

/-- A schedule makes a trigger of each record, and any other event makes one trigger. -/
theorem expand_eq (event : String) (config : Value) :
    expand event config =
      if event = scheduleEvent then (cronRecords config).map ofRecord
      else [⟨event, .ofValue config⟩] := by
  rcases Classical.em (event = scheduleEvent) with rfl | hother
  · rw [if_pos rfl, expand_schedule]
  · rw [if_neg hother, expand_of_ne hother]

/-- Schedules come from the event of schedules only. -/
theorem filter_isSchedule_expand (event : String) (config : Value) :
    (expand event config).filter isSchedule =
      if event = scheduleEvent then (cronRecords config).map ofRecord else [] := by
  rw [expand_eq]
  split
  · rw [List.filter_eq_self]
    intro t ht
    obtain ⟨r, _, rfl⟩ := List.mem_map.mp ht
    exact beq_self_eq_true scheduleEvent
  · next hother =>
    rw [List.filter_eq_nil_iff]
    intro t ht
    rw [List.mem_singleton.mp ht]
    simpa [isSchedule] using hother

/-- Only one event can be the schedule, so its records are all the schedules there are. -/
theorem filter_isSchedule_ofMap (m : ValueMap) :
    (ofMap m).filter isSchedule =
      ((m.get? scheduleEvent).elim [] cronRecords).map ofRecord := by
  rw [ofMap, List.filter_flatMap]
  simp only [filter_isSchedule_expand]
  rw [m.flatMap_entries_of_key scheduleEvent fun config => (cronRecords config).map ofRecord]
  cases m.get? scheduleEvent <;> rfl

end Trigger

/-! ## Expansion -/

/-- An element of the list makes the triggers of the entry that it writes. -/
theorem OnEntry.Writes.triggers_eq {e : String × Value} {element : OnEntry}
    (h : OnEntry.Writes e element) : element.triggers = Trigger.expand e.1 e.2 := by
  cases h with
  | configured event config => exact Trigger.ofMap_singleton event config
  | bare hbare => exact (Trigger.expand_of_mayBeBare hbare).symm

/-- Each notation makes the triggers of the map. -/
theorem On.Writes.triggers_eq {m : ValueMap} {on : On} (h : on.Writes m) :
    on.triggers = Trigger.ofMap m := by
  cases h with
  | map => rfl
  | listOfMap => exact List.flatMap_singleton ..
  | listOfEvents helements =>
    -- element by element, along the entries of the map
    show List.flatMap _ _ = List.flatMap _ m.entries
    generalize m.entries = entries at helements
    induction helements with
    | nil => rfl
    | cons helement _ ih => rw [List.flatMap_cons, List.flatMap_cons, helement.triggers_eq, ih]

/-! ## Workflows -/

namespace Workflow

/-- A workflow with other triggers. -/
def withOn (w : Workflow) (on : On) : Workflow := { w with on := on }

variable {v w : Workflow}

/-- The checks look at nothing but the list of triggers and the jobs. -/
theorem lintWith_congr (htriggers : v.triggers = w.triggers) (hjobs : v.jobs = w.jobs)
    (options : LintOptions) : v.lintWith options = w.lintWith options := by
  rw [lintWith, htriggers, hjobs, lintWith]

/-- The layout looks at nothing but the list of triggers and the jobs. -/
theorem layout_congr {α : Type} [Coordinate α] (htriggers : v.triggers = w.triggers)
    (hjobs : v.jobs = w.jobs) (g : Geometry α) : v.layout g = w.layout g := by
  -- each piece of the layout takes the one or the other, and the ids of triggers the jobs alone
  have hlevels : v.levels = w.levels := by
    unfold levels needsOf
    rw [hjobs]
  have hids : v.syntheticId = w.syntheticId := by
    funext id
    rw [syntheticId, syntheticId, hjobs]
  have htriggerIds : v.triggerId = w.triggerId := by
    funext index
    rw [triggerId, triggerId, hids]
  have hdata : v.triggerData = w.triggerData := by
    rw [triggerData, triggerData, htriggers]
  have hadd : v.addJobId = w.addJobId := congrFun hids _
  have hcolumns : v.columnNodes g = w.columnNodes g := by
    unfold columnNodes
    rw [hjobs]
  have hneeds : v.needEdges = w.needEdges := by
    unfold needEdges
    rw [hjobs]
  simp only [layout, nodes, edges, triggerNodes, jobNodes, addJobNode, hlevels, htriggerIds, hdata,
    hadd, hcolumns, hneeds, htriggers, hjobs]

/-- **The notations for triggers are interchangeable.** Whichever of them is chosen for a map of
events, a workflow has the same list of triggers, is told of the same problems, and is drawn in the
same way. The list goes through the events in their order: a schedule makes one trigger of each of
its records, and any other event makes one trigger. -/
theorem notations_interchangeable (w : Workflow) (m : ValueMap) {on other : On} (h : on.Writes m)
    (hother : other.Writes m) :
    (w.withOn on).triggers = (w.withOn other).triggers ∧
    (∀ options, (w.withOn on).lintWith options = (w.withOn other).lintWith options) ∧
    (∀ {α : Type} [Coordinate α] (g : Geometry α),
      (w.withOn on).layout g = (w.withOn other).layout g) ∧
    ((w.withOn on).triggers = m.entries.flatMap fun e =>
      if e.1 = Trigger.scheduleEvent then (Trigger.cronRecords e.2).map Trigger.ofRecord
      else [⟨e.1, .ofValue e.2⟩]) ∧
    (w.withOn on).triggers.filter Trigger.isSchedule =
      ((m.get? Trigger.scheduleEvent).elim [] Trigger.cronRecords).map Trigger.ofRecord := by
  have htriggers : (w.withOn on).triggers = (w.withOn other).triggers :=
    h.triggers_eq.trans hother.triggers_eq.symm
  have hexpanded : (w.withOn on).triggers = Trigger.ofMap m := h.triggers_eq
  refine ⟨htriggers, lintWith_congr htriggers rfl, layout_congr htriggers rfl, ?_, ?_⟩
  · rw [hexpanded, Trigger.ofMap]
    simp only [Trigger.expand_eq]
  · rw [hexpanded, Trigger.filter_isSchedule_ofMap]

/-- A push to one branch, an event without configuration, two schedules, and a text in place of a
configuration. -/
def nightly : ValueMap :=
  .ofList [("push", .mapping [(.string "branches", .sequence [.string "main"])]), ("create", .null),
    ("schedule", .sequence [.mapping [(.string "cron", .string "0 0 * * *")],
      .mapping [(.string "cron", .string "0 12 * * *")]]),
    ("release", .string "all")]

/-- The same, event by event. -/
def nightlyElements : List OnEntry :=
  [.configured (.singleton "push" (.mapping [(.string "branches", .sequence [.string "main"])])),
    .event "create",
    .configured (.singleton "schedule" (.sequence
      [.mapping [(.string "cron", .string "0 0 * * *")],
        .mapping [(.string "cron", .string "0 12 * * *")]])),
    .event "release"]

/-- Written event by event and as one mapping in a list, these triggers are the same. -/
theorem notations_interchangeable_nightly :
    (On.list nightlyElements).Writes nightly ∧ (On.list [.configured nightly]).Writes nightly ∧
    (sample.withOn (.list nightlyElements)).triggers =
      (sample.withOn (.list [.configured nightly])).triggers ∧
    (∀ options, (sample.withOn (.list nightlyElements)).lintWith options =
      (sample.withOn (.list [.configured nightly])).lintWith options) ∧
    (∀ {α : Type} [Coordinate α] (g : Geometry α),
      (sample.withOn (.list nightlyElements)).layout g =
        (sample.withOn (.list [.configured nightly])).layout g) ∧
    (sample.withOn (.list nightlyElements)).triggers.map Trigger.description =
      ["push • branches: main", "create", "schedule • cron: 0 0 * * *",
        "schedule • cron: 0 12 * * *", "release"] := by
  have hentries : nightly.entries =
      [("push", .mapping [(.string "branches", .sequence [.string "main"])]), ("create", .null),
        ("schedule", .sequence [.mapping [(.string "cron", .string "0 0 * * *")],
          .mapping [(.string "cron", .string "0 12 * * *")]]),
        ("release", .string "all")] := by
    decide +kernel
  have hcreate : Trigger.MayBeBare "create" .null := by simp [Trigger.MayBeBare]
  have hrelease : Trigger.MayBeBare "release" (.string "all") := by simp [Trigger.MayBeBare]
  have helements : (On.list nightlyElements).Writes nightly := by
    apply On.Writes.listOfEvents
    rw [hentries]
    exact .cons (.configured ..) (.cons (.bare hcreate) (.cons (.configured ..)
      (.cons (.bare hrelease) .nil)))
  obtain ⟨htriggers, hlint, hlayout, -, -⟩ :=
    notations_interchangeable sample nightly helements .listOfMap
  exact ⟨helements, .listOfMap, htriggers, hlint, hlayout, by decide +kernel⟩

end Workflow

end CiWorkflow
