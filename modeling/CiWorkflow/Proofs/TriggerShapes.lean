import CiWorkflow.Proofs.Written
import CiWorkflow.Trigger.Shape
/-!
# Folding Triggers

A list of triggers is written in the shortest of six shapes, and each of them is read by rules of
its own. The list comes back with the schedules behind all other triggers, and with a cron
expression for every schedule, in whatever shape it was written.

## Layers

- **Events**: what is written of one event with its configuration expands to that trigger.
- **Schedules**: a list of records expands to the schedules that were merged into it.
- **Shapes**: the two kinds of triggers come back from each of the shapes.
-/

namespace CiWorkflow

open Yaml (Value)

namespace Trigger

/-! ## Events -/

/-- A configuration is written as a mapping, and so it configures a single trigger. -/
theorem expand_toValue (event : String) (config : TriggerConfig) :
    expand event (ValueMap.toValue config) = [⟨event, config⟩] := by
  have hconfig : TriggerConfig.ofValue (ValueMap.toValue config) = config :=
    ValueMap.ofEntries_toEntries config
  show [Trigger.mk event (TriggerConfig.ofValue (ValueMap.toValue config))] = _
  rw [hconfig]

theorem ofMap_singleton (event : String) (config : Value) :
    ofMap (.singleton event config) = expand event config :=
  List.flatMap_singleton ..

/-- The triggers of an event that is new to a map go behind those of the map. -/
theorem ofMap_insert {m : ValueMap} {event : String} (hnew : event ∉ m.keys) (config : Value) :
    ofMap (m.insert event config) = ofMap m ++ expand event config := by
  have hentries : (m.insert event config).entries = m.entries ++ [(event, config)] :=
    KeyedList.put_of_not_mem hnew
  rw [ofMap, hentries, List.flatMap_append, List.flatMap_singleton]
  rfl

/-- A trigger without configuration is written by its name alone. -/
theorem eq_plain_of_isEmpty {t : Trigger} (h : t.config.isEmpty = true) : t = plain t.event := by
  rw [plain, ← KeyedList.isEmpty_iff.mp h]

/-- An element of a list holds one trigger, whether it is written by its name or as a mapping. -/
theorem triggers_toEntry (t : Trigger) : t.toEntry.triggers = [t] := by
  unfold toEntry
  split
  · next hempty =>
    rw [OnEntry.triggers, ← eq_plain_of_isEmpty hempty]
  · rw [OnEntry.triggers, ofMap_singleton, expand_toValue]

/-- Events in a list come back one by one. -/
theorem flatMap_triggers_toEntry (events : List Trigger) :
    (events.map toEntry).flatMap OnEntry.triggers = events := by
  rw [List.flatMap_map]
  simp only [triggers_toEntry]
  exact List.flatMap_singleton' events

/-! ## Schedules -/

theorem event_filled (t : Trigger) : t.filled.event = t.event := by
  unfold filled
  split <;> rfl

/-- Filling in a cron expression makes no trigger a schedule that was none. -/
theorem isSchedule_filled (t : Trigger) : t.filled.isSchedule = t.isSchedule := by
  unfold isSchedule
  rw [event_filled]

/-- The expression is there afterwards, whether it was there before or not. -/
theorem isSome_cron?_filled (t : Trigger) : t.filled.config.cron?.isSome = true := by
  unfold filled
  split
  · simp [TriggerConfig.cron?, KeyedList.get?_insert, Value.asString?, Value.untagged]
  · next hcron =>
    simpa [Option.isSome_iff_ne_none] using hcron

/-- A trigger that has a cron expression stays as it is. -/
theorem filled_filled (t : Trigger) : t.filled.filled = t.filled := by
  have hcron : ¬t.filled.config.cron?.isNone = true := by
    simpa [Option.isSome_iff_ne_none] using isSome_cron?_filled t
  rw [filled, if_neg hcron]

theorem scheduleValue_map_filled (schedules : List Trigger) :
    scheduleValue (schedules.map filled) = scheduleValue schedules := by
  unfold scheduleValue
  rw [List.map_map]
  simp only [Function.comp_def, filled_filled]

/-- Schedules come back from their records, each with an expression. -/
theorem expand_scheduleValue {schedules : List Trigger} (h : ∀ t ∈ schedules, t.isSchedule = true) :
    expand scheduleEvent (scheduleValue schedules) = schedules.map filled := by
  show (schedules.map _).map _ = _
  rw [List.map_map]
  apply List.map_congr_left
  intro t ht
  have hevent : t.filled.event = scheduleEvent := by
    rw [event_filled]
    simpa [isSchedule] using h t ht
  have hconfig : TriggerConfig.ofValue (ValueMap.toValue t.filled.config) = t.filled.config :=
    ValueMap.ofEntries_toEntries t.filled.config
  rw [Function.comp_apply, hconfig, ← hevent]

/-- A list of triggers with its schedules behind all others, and with a cron expression for each. -/
def schedulesLast (triggers : List Trigger) : List Trigger :=
  (triggers.filter fun t => !t.isSchedule) ++ (triggers.filter isSchedule).map filled

theorem isSchedule_of_mem_filled {triggers : List Trigger} {t : Trigger}
    (h : t ∈ (triggers.filter isSchedule).map filled) : t.isSchedule = true := by
  obtain ⟨s, hs, rfl⟩ := List.mem_map.mp h
  rw [isSchedule_filled]
  exact (List.mem_filter.mp hs).2

/-- Schedules move behind the events, which stay in their order among themselves. -/
theorem filter_events_schedulesLast (triggers : List Trigger) :
    (schedulesLast triggers).filter (fun t => !t.isSchedule) =
      triggers.filter fun t => !t.isSchedule := by
  have hschedules : ((triggers.filter isSchedule).map filled).filter (fun t => !t.isSchedule) =
      [] := by
    rw [List.filter_eq_nil_iff]
    intro t ht
    simpa using isSchedule_of_mem_filled ht
  rw [schedulesLast, List.filter_append, List.filter_filter, hschedules, List.append_nil]
  simp only [Bool.and_self]

theorem filter_schedules_schedulesLast (triggers : List Trigger) :
    (schedulesLast triggers).filter isSchedule = (triggers.filter isSchedule).map filled := by
  have hevents : (triggers.filter fun t => !t.isSchedule).filter isSchedule = [] := by
    rw [List.filter_eq_nil_iff]
    intro t ht
    simpa using (List.mem_filter.mp ht).2
  have hschedules : ((triggers.filter isSchedule).map filled).filter isSchedule =
      (triggers.filter isSchedule).map filled := by
    rw [List.filter_eq_self]
    exact fun t ht => isSchedule_of_mem_filled ht
  rw [schedulesLast, List.filter_append, hevents, hschedules, List.nil_append]

/-- Triggers of which none is a schedule are all there is to a list. -/
theorem eq_of_filter_schedules_eq_nil {triggers : List Trigger}
    (h : triggers.filter isSchedule = []) :
    (triggers.filter fun t => !t.isSchedule) = triggers := by
  rw [List.filter_eq_self]
  intro t ht
  simpa using List.filter_eq_nil_iff.mp h t ht

end Trigger

/-! ## Shapes -/

namespace On

open Trigger

/-- Whatever their shape, triggers come back with the schedules in the end. Only a single event
without a name and without configuration is lost, since nothing is written of it but the name. -/
theorem triggers_ofParts {events schedules : List Trigger}
    (hevents : ∀ t ∈ events, t.isSchedule = false)
    (hschedules : ∀ t ∈ schedules, t.isSchedule = true)
    (hnamed : ¬(events = [.plain ""] ∧ schedules = [])) :
    (ofParts events schedules).triggers = events ++ schedules.map filled := by
  unfold ofParts
  split
  · rfl
  · -- schedules alone
    rw [triggers, ofMap_singleton, expand_scheduleValue hschedules, List.nil_append]
  · -- one event alone
    next t =>
    split
    · next hempty =>
      have hname : ¬t.event.isEmpty = true := by
        intro hname
        rw [String.isEmpty_iff] at hname
        refine hnamed ⟨?_, rfl⟩
        rw [eq_plain_of_isEmpty hempty, hname]
      rw [triggers, if_neg hname, ← eq_plain_of_isEmpty hempty]
      rfl
    · rw [triggers, ofMap_singleton, expand_toValue]
      rfl
  · -- one event with schedules: their key is new, since the event is no schedule
    next t _ =>
    have hnew : scheduleEvent ∉ (KeyedList.singleton t.event (ValueMap.toValue t.config)).keys := by
      have hevent : t.event ≠ scheduleEvent := by
        simpa [isSchedule] using hevents t (List.mem_singleton_self t)
      simpa [KeyedList.singleton, KeyedList.keys] using hevent.symm
    rw [triggers, ofMap_insert hnew, ofMap_singleton, expand_toValue,
      expand_scheduleValue hschedules]
  · -- several events alone
    rw [triggers, flatMap_triggers_toEntry, List.map_nil, List.append_nil]
  · -- several events with schedules
    rw [triggers, List.flatMap_append, flatMap_triggers_toEntry, List.flatMap_singleton,
      OnEntry.triggers, ofMap_singleton, expand_scheduleValue hschedules]

/-- Schedules without a cron expression are written in the same way as with the one they get. -/
theorem ofParts_map_filled (events schedules : List Trigger) :
    ofParts events (schedules.map filled) = ofParts events schedules := by
  cases schedules with
  | nil => rfl
  | cons first rest =>
    have hvalue := scheduleValue_map_filled (first :: rest)
    rw [List.map_cons] at hvalue ⊢
    match events with
    | [] => simp only [ofParts, hvalue]
    | [_] => simp only [ofParts, hvalue]
    | _ :: _ :: _ => simp only [ofParts, hvalue]

/-- **Folding and reading triggers again loses nothing.** Whatever the list of triggers, but for a
single one without a name and without configuration, the shape it is folded to holds the same
triggers in their order, the schedules behind all others and each with a cron expression; and these
triggers are folded to that same shape. Of the exception no trigger comes back. Every shape is read
back as it is from its value. -/
theorem triggers_ofTriggers :
    (∀ triggers : List Trigger, triggers ≠ [.plain ""] →
      (ofTriggers triggers).triggers = schedulesLast triggers ∧
      ofTriggers (schedulesLast triggers) = ofTriggers triggers ∧
      triggersOfValue (ofTriggers triggers).toValue = schedulesLast triggers) ∧
    (ofTriggers [.plain ""]).triggers = [] ∧
    ∀ on : On, ofValue? on.toValue = some on := by
  refine ⟨fun triggers hnamed => ?_, rfl, fun on => on.readsBack.2⟩
  -- without schedules the events are the whole list, which is not the one that is lost
  have hread : (ofTriggers triggers).triggers = schedulesLast triggers := by
    apply triggers_ofParts
    · intro t ht
      simpa using (List.mem_filter.mp ht).2
    · intro t ht
      exact (List.mem_filter.mp ht).2
    · rintro ⟨hevents, hschedules⟩
      rw [eq_of_filter_schedules_eq_nil hschedules] at hevents
      exact hnamed hevents
  refine ⟨hread, ?_, ?_⟩
  · -- the same events and schedules, which have their cron expressions by now
    rw [ofTriggers, filter_events_schedulesLast, filter_schedules_schedulesLast,
      ofParts_map_filled]
    rfl
  · rw [triggersOfValue, (ofTriggers triggers).readsBack.2]
    exact hread

/-- Schedules around other events, of which one has neither a name nor a configuration. -/
def scatteredTriggers : List Trigger :=
  [⟨"schedule", .singleton "timezone" (.string "UTC")⟩, .plain "",
    ⟨"push", .ofList [("tags", .null), ("branches", .sequence [.string "main"])]⟩,
    ⟨"schedule", .singleton "cron" (.tagged "at" (.string "5 4 * * *"))⟩]

/-- Two schedules move behind the others, and the first of them gets a cron expression. -/
theorem triggers_ofTriggers_scattered :
    scatteredTriggers ≠ [.plain ""] ∧
    schedulesLast scatteredTriggers =
      [.plain "", ⟨"push", .ofList [("tags", .null), ("branches", .sequence [.string "main"])]⟩,
        ⟨"schedule", .ofList [("timezone", .string "UTC"), ("cron", .string "0 0 * * *")]⟩,
        ⟨"schedule", .singleton "cron" (.tagged "at" (.string "5 4 * * *"))⟩] ∧
    (ofTriggers scatteredTriggers).triggers = schedulesLast scatteredTriggers ∧
    ofTriggers (schedulesLast scatteredTriggers) = ofTriggers scatteredTriggers ∧
    triggersOfValue (ofTriggers scatteredTriggers).toValue = schedulesLast scatteredTriggers := by
  have hnamed : scatteredTriggers ≠ [.plain ""] := by decide +kernel
  exact ⟨hnamed, by decide +kernel, triggers_ofTriggers.1 scatteredTriggers hnamed⟩

end On

end CiWorkflow
