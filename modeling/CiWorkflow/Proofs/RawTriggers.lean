import CiWorkflow.Proofs.RoundTrip
import Mathlib.Data.List.Nodup
import Mathlib.Data.Set.List
/-!
# Triggers as Raw Values

The triggers of a workflow are handed out as a raw value, written as a part of the workflow, and
read from a value by functions that know nothing of each other. The first two make the same value of
them. Reading is lenient: elements of a list that are neither texts nor mappings are passed over,
keys that are no texts become texts, and entries whose keys become the same text are merged. So a
value comes back as it was only if none of this happens to it, and these are the values that are
written.

This complements `Written`, where triggers come back from their values.

## Layers

- **Raw values**: the values that describe triggers and leave nothing to be passed over.
- **What is written** is just these values, from entries to elements to all triggers.
- **Workflows** are written with the value of their triggers.
-/

namespace CiWorkflow

open Yaml (Value Entries)

/-! ## Raw values -/

/-- The keys of a mapping are texts without tags. As in every mapping, they are different. -/
structure Yaml.TextKeyed (entries : Entries) : Prop where
  texts : ∀ e ∈ entries, ∃ key, e.1 = .string key
  distinct : (entries.map Prod.fst).Nodup

/-- A value that describes an element of a list of triggers. What stands under its keys is free. -/
inductive OnEntry.Raw : Value → Prop where
  | event (name : String) : Raw (.string name)
  | configured {entries : Entries} (hkeys : Yaml.TextKeyed entries) : Raw (.mapping entries)

/-- A value that describes triggers: a text, a mapping of texts, or a list of such. -/
inductive On.Raw : Value → Prop where
  | event (name : String) : Raw (.string name)
  | list {items : List Value} (hitems : ∀ v ∈ items, OnEntry.Raw v) : Raw (.sequence items)
  | map {entries : Entries} (hkeys : Yaml.TextKeyed entries) : Raw (.mapping entries)

/-! ## What is written -/

/-- A map has texts for keys, and no two of them are the same. -/
theorem ValueMap.textKeyed_toEntries (m : ValueMap) : Yaml.TextKeyed m.toEntries where
  texts e he := by
    obtain ⟨pair, _, rfl⟩ := List.mem_map.mp he
    exact ⟨pair.1, rfl⟩
  distinct := by
    have hkeys : m.toEntries.map Prod.fst = m.keys.map Value.string := by
      rw [toEntries, KeyedList.keys, List.map_map, List.map_map]
      rfl
    rw [hkeys]
    exact List.Nodup.map (fun _ _ => Value.string.inj) m.distinct

/-- Entries with different texts for keys are those of a map. -/
theorem Yaml.TextKeyed.exists_toEntries {entries : Entries} (h : Yaml.TextKeyed entries) :
    ∃ m : ValueMap, m.toEntries = entries := by
  -- entry by entry there is a pair of a text and a value
  have hrange : entries ∈ Set.range (List.map fun pair : String × Value =>
      (Value.string pair.1, pair.2)) := by
    rw [Set.range_list_map]
    rintro ⟨_, v⟩ he
    obtain ⟨key, rfl⟩ := h.texts _ he
    exact ⟨(key, v), rfl⟩
  obtain ⟨pairs, rfl⟩ := hrange
  have hdistinct : (pairs.map Prod.fst).Nodup := by
    have hkeys := h.distinct
    rw [List.map_map] at hkeys
    refine List.Nodup.of_map Value.string ?_
    rwa [List.map_map]
  exact ⟨⟨pairs, hdistinct⟩, rfl⟩

/-- Elements are written as the values that describe them, and as no others. -/
theorem OnEntry.raw_iff {v : Value} : OnEntry.Raw v ↔ ∃ e : OnEntry, e.toValue = v := by
  constructor
  · rintro (name | hkeys)
    · exact ⟨.event name, rfl⟩
    · obtain ⟨m, rfl⟩ := hkeys.exists_toEntries
      exact ⟨.configured m, rfl⟩
  · rintro ⟨e, rfl⟩
    cases e with
    | event name => exact .event name
    | configured m => exact .configured m.textKeyed_toEntries

/-- Triggers are written as the values that describe them, and as no others. -/
theorem On.raw_iff {v : Value} : On.Raw v ↔ ∃ on : On, on.toValue = v := by
  constructor
  · intro h
    cases h with
    | event name => exact ⟨.event name, rfl⟩
    | @list items hitems =>
      -- every item is written of an element, and so are all of them together
      have hrange : items ∈ Set.range (List.map OnEntry.toValue) := by
        rw [Set.range_list_map]
        exact fun v hv => OnEntry.raw_iff.mp (hitems v hv)
      obtain ⟨entries, rfl⟩ := hrange
      exact ⟨.list entries, rfl⟩
    | map hkeys =>
      obtain ⟨m, rfl⟩ := hkeys.exists_toEntries
      exact ⟨.map m, rfl⟩
  · rintro ⟨on, rfl⟩
    cases on with
    | event name => exact .event name
    | map m => exact .map m.textKeyed_toEntries
    | list entries =>
      refine .list fun v hv => ?_
      obtain ⟨e, _, rfl⟩ := List.mem_map.mp hv
      exact OnEntry.raw_iff.mpr ⟨e, rfl⟩

/-! ## Workflows -/

/-- The raw value of the triggers is found under their key, whatever else is written. -/
theorem Workflow.get?_written_on (w : Workflow) : w.written.get? "on" = some w.on.toValue := by
  simp [written]

/-- **Writing triggers as raw values and reading them are inverse.** Triggers come back from their
value as they were, with all entries in their order, and their value is the one with which a
workflow is written. Of all values just those come back from the triggers that they describe that
are a text, a mapping with plain texts for keys, or a list of such texts and mappings. -/
theorem On.ofValue?_toValue_inverse :
    (∀ on : On, ofValue? on.toValue = some on) ∧
    (∀ w : Workflow, ∃ fields, w.toValue = .mapping fields ∧
      Entries.get? fields "on" = some w.on.toValue) ∧
    ∀ v : Value, On.Raw v ↔ (ofValue? v).map toValue = some v := by
  refine ⟨fun on => on.readsBack.2, fun w => ⟨w.written, w.toValue_eq, w.get?_written_on⟩,
    fun v => ?_⟩
  rw [On.raw_iff]
  constructor
  · rintro ⟨on, rfl⟩
    rw [on.readsBack.2, Option.map_some]
  · intro h
    obtain ⟨on, _, hon⟩ := Option.map_eq_some_iff.mp h
    exact ⟨on, hon⟩

end CiWorkflow
