import CiWorkflow.Workflow.Decode
import CiWorkflow.Workflow.Encode
/-!
# Written Fields

What is written of a workflow, a job or a step is a record: its fields one by one, and among them
the entries that the model does not know. A reader finds a mapping and looks for one key after the
other. Both directions are stated by themselves, so here is what makes them meet.

## Layers

- **Records**: the entries that come of a list of fields.
- **Look-up**: a key finds the field of its name, and nothing among foreign entries.
- **Reading back**: a field whose value reads back is read as it was.
- **Shapes**: the values of the fields read back, whatever shape they have.
-/

namespace CiWorkflow

open Yaml (Value Entries Node)

/-! ## Records -/

/-- The entry of a field that may be absent. -/
def optionalEntry {α : Type} (name : String) (encode : α → Value) (a : Option α) : Entries :=
  (a.map fun x => (Value.string name, encode x)).toList

theorem toEntries_eq_map (fields : List (Value × Node)) :
    Node.toEntries fields = fields.map fun f => (f.1, f.2.toValue) := by
  induction fields with
  | nil => rfl
  | cons f rest ih => rw [Node.toEntries, ih, List.map_cons]

theorem toValues_eq_map (items : List Node) : Node.toValues items = items.map Node.toValue := by
  induction items with
  | nil => rfl
  | cons n rest ih => rw [Node.toValues, ih, List.map_cons]

@[simp] theorem toEntries_append (xs ys : List (Value × Node)) :
    Node.toEntries (xs ++ ys) = Node.toEntries xs ++ Node.toEntries ys := by
  simp only [toEntries_eq_map, List.map_append]

/-- An absent field leaves no entry. -/
@[simp] theorem toEntries_optionalField {α : Type} (name : String) (encode : α → Value)
    (a : Option α) :
    Node.toEntries (optionalField name encode a) = optionalEntry name encode a := by
  cases a <;> rfl

@[simp] theorem toEntries_extraFields (extra : Entries) :
    Node.toEntries (extraFields extra) = extra := by
  rw [toEntries_eq_map, extraFields, List.map_map]
  exact List.map_id extra

/-! ## Look-up -/

/-- Entries whose keys, also those behind tags, are none of the known names. -/
def Foreign (known : List String) (extra : Entries) : Prop :=
  ∀ e ∈ extra, ∀ key ∈ known, e.1.untagged ≠ .string key

instance (known : List String) (extra : Entries) : Decidable (Foreign known extra) :=
  inferInstanceAs (Decidable (∀ e ∈ extra, ∀ key ∈ known, e.1.untagged ≠ .string key))

/-- What stands first is found first. -/
@[simp] theorem get?_append (xs ys : Entries) (key : String) :
    Entries.get? (xs ++ ys) key = (Entries.get? xs key).or (Entries.get? ys key) := by
  simp only [Entries.get?, List.find?_append]
  cases List.find? (fun e => e.1 == Value.string key) xs <;> rfl

@[simp] theorem get?_optionalEntry {α : Type} (name key : String) (encode : α → Value)
    (a : Option α) :
    Entries.get? (optionalEntry name encode a) key = if name = key then a.map encode else none := by
  cases a with
  | none => simp [optionalEntry, Entries.get?]
  | some x => by_cases h : name = key <;> simp [optionalEntry, Entries.get?, h]

/-- No field is found among entries that are foreign. -/
theorem Foreign.get?_eq_none {known : List String} {extra : Entries} (h : Foreign known extra)
    {key : String} (hkey : key ∈ known) : Entries.get? extra key = none := by
  rw [Entries.get?, Option.map_eq_none_iff, List.find?_eq_none]
  intro e he heq
  have hplain : e.1 = .string key := by simpa using heq
  have huntagged : e.1.untagged = .string key := by rw [hplain]; rfl
  exact h e he key hkey huntagged

@[simp] theorem passthrough_append (known : List String) (xs ys : Entries) :
    passthrough known (xs ++ ys) = passthrough known xs ++ passthrough known ys :=
  List.filter_append ..

theorem passthrough_optionalEntry {α : Type} {known : List String} {name : String}
    (hname : name ∈ known) (encode : α → Value) (a : Option α) :
    passthrough known (optionalEntry name encode a) = [] := by
  cases a with
  | none => rfl
  | some x => simp [optionalEntry, passthrough, Value.asString?, Value.untagged, hname]

/-- What is carried along has keys that are no known names, not even behind tags. -/
theorem passthrough_eq_filter (known : List String) (entries : Entries) :
    passthrough known entries =
      entries.filter fun e => ∀ name ∈ known, e.1.untagged ≠ .string name := by
  apply List.filter_congr
  intro e _
  rw [eq_comm, Bool.eq_iff_iff, decide_eq_true_iff]
  constructor
  · -- a key without a text is no name, and any other one is compared by its text
    intro hforeign
    cases hkey : e.1.asString? with
    | none => rfl
    | some key =>
      have hnot : key ∉ known := fun hmem =>
        hforeign key hmem (Value.asString?_eq_some_iff.mp hkey)
      simpa using hnot
  · intro hpass name hname huntagged
    rw [Value.asString?_eq_some_iff.mpr huntagged] at hpass
    simp [hname] at hpass

/-- Foreign entries are carried along. -/
theorem Foreign.passthrough_eq {known : List String} {extra : Entries} (h : Foreign known extra) :
    passthrough known extra = extra := by
  rw [passthrough_eq_filter, List.filter_eq_self]
  exact fun e he => decide_eq_true (h e he)

/-- What is carried along is foreign. -/
theorem foreign_passthrough (known : List String) (entries : Entries) :
    Foreign known (passthrough known entries) := by
  rw [passthrough_eq_filter]
  exact fun e he => of_decide_eq_true (List.mem_filter.mp he).2

/-! ## Reading back -/

/-- A value is written as something, and reading that gives the value. -/
def ReadsBack {α : Type} (encode : α → Value) (decode : Value → Option α) (x : α) : Prop :=
  (encode x).isNull = false ∧ decode (encode x) = some x

/-- A field that is found where it was written, and reads back, is read as it was written. -/
theorem bind_field?_eq {α : Type} {encode : α → Value} {decode : Value → Option α}
    {entries : Entries} {name : String} {a : Option α}
    (hget : entries.get? name = a.map encode) (hread : ∀ x ∈ a, ReadsBack encode decode x) :
    (field? entries name).bind decode = a := by
  rw [field?, hget]
  cases a with
  | none => rfl
  | some x =>
    obtain ⟨hnull, hdecode⟩ := hread x rfl
    rw [Option.map_some, Option.filter_some, if_pos (by simp [hnull]), Option.bind_some, hdecode]

/-! ## Shapes -/

theorem readsBack_string (s : String) : ReadsBack .string Value.scalarText? s := ⟨rfl, rfl⟩

theorem bind_field?_string {entries : Entries} {name : String} {a : Option String}
    (hget : entries.get? name = a.map .string) :
    (field? entries name).bind Value.scalarText? = a :=
  bind_field?_eq hget fun s _ => readsBack_string s

/-- A list of texts is read back as these texts. -/
theorem filterMap_scalarText?_string (ls : List String) :
    (ls.map Value.string).filterMap Value.scalarText? = ls := by
  rw [List.filterMap_map]
  exact List.filterMap_some

/-- One runner and a list of runners are told apart, also where the list has one item. -/
theorem RunsOn.readsBack (r : RunsOn) : ReadsBack RunsOn.toValue RunsOn.ofValue? r := by
  cases r with
  | label l => exact ⟨rfl, rfl⟩
  | labels ls => exact ⟨rfl, by rw [toValue, ofValue?, filterMap_scalarText?_string]⟩

theorem Needs.readsBack (n : Needs) : ReadsBack Needs.toValue Needs.ofValue? n := by
  cases n with
  | one id => exact ⟨rfl, rfl⟩
  | many ids => exact ⟨rfl, by rw [toValue, ofValue?, filterMap_scalarText?_string]⟩

namespace ValueMap

/-- The keys of a map are texts already, so that none of them is changed or merged. -/
theorem ofEntries_toEntries (m : ValueMap) : ofEntries m.toEntries = m := by
  have hpairs : m.toEntries.filterMap (fun e => e.1.scalarText?.map fun key => (key, e.2)) =
      m.entries := by
    rw [toEntries, List.filterMap_map]
    exact List.filterMap_some
  rw [ofEntries, hpairs, KeyedList.ofList_entries]

theorem readsBack (m : ValueMap) : ReadsBack toValue ofValue? m :=
  ⟨rfl, congrArg some (ofEntries_toEntries m)⟩

/-- A map without entries would be read as absent, but it is not written either. -/
theorem readsBack_nonEmpty {m : Option ValueMap} :
    ∀ x ∈ nonEmpty? m, ReadsBack toValue ofNonEmpty? x := by
  intro x hx
  have hfilled : (!x.isEmpty) = true := (Option.filter_eq_some_iff.mp hx).2
  refine ⟨rfl, ?_⟩
  rw [ofNonEmpty?, x.readsBack.2, nonEmpty?, Option.filter_some, if_pos hfilled]

end ValueMap

/-- A map is the same value in one piece and entry by entry. -/
theorem ValueMap.toValue_toNode (m : ValueMap) : m.toNode.toValue = m.toValue := by
  rw [toNode, Node.toValue, toEntries_eq_map, List.map_map]
  rfl

/-- An element of a list of triggers is written as its raw value. -/
theorem OnEntry.toValue_toNode (e : OnEntry) : e.toNode.toValue = e.toValue := by
  cases e with
  | event name => rfl
  | configured m => exact m.toValue_toNode

/-- What is written of triggers and what is handed out of them is one value. -/
theorem On.toValue_toNode (on : On) : on.toNode.toValue = on.toValue := by
  cases on with
  | event name => rfl
  | list entries =>
    have hentries :
        (entries.map OnEntry.toNode).map Node.toValue = entries.map OnEntry.toValue := by
      rw [List.map_map]
      exact List.map_congr_left fun e _ => e.toValue_toNode
    rw [toNode, Node.toValue, toValues_eq_map, hentries]
    rfl
  | map m => exact m.toValue_toNode

/-- No element of a list of triggers is passed over. -/
theorem OnEntry.ofValue?_toValue (e : OnEntry) : OnEntry.ofValue? e.toValue = some e := by
  cases e with
  | event name => rfl
  | configured m => exact congrArg (some ∘ configured) (ValueMap.ofEntries_toEntries m)

/-- Each of the three shapes of triggers comes back as itself. -/
theorem On.readsBack (on : On) : ReadsBack On.toValue On.ofValue? on := by
  cases on with
  | event name => exact ⟨rfl, rfl⟩
  | list entries =>
    have hentries : (entries.map OnEntry.toValue).filterMap OnEntry.ofValue? = entries := by
      rw [List.filterMap_map, Function.comp_def]
      simp only [OnEntry.ofValue?_toValue, List.filterMap_some]
    exact ⟨rfl, by rw [toValue, ofValue?, hentries]⟩
  | map m => exact ⟨rfl, congrArg (some ∘ map) (ValueMap.ofEntries_toEntries m)⟩

theorem readsBack_bool (b : Bool) : ReadsBack .bool Value.asBool? b := ⟨rfl, rfl⟩

/-- Every number of 64 bits is in the range in which numbers are read. -/
theorem readsBack_int64 (n : Int64) :
    ReadsBack (fun n : Int64 => .number (.int n.toInt)) Value.asInt64? n := by
  have hlow : -0x8000000000000000 ≤ n.toInt := n.le_toInt
  have hhigh : n.toInt < 0x8000000000000000 := n.toInt_lt
  refine ⟨rfl, ?_⟩
  simp [Value.asInt64?, Value.untagged, hlow, hhigh]

/-- The entries of a strategy. -/
def Strategy.written (s : Strategy) : Entries :=
  optionalEntry "matrix" ValueMap.toValue s.matrix ++
    optionalEntry "fail-fast" .bool s.failFast ++
    optionalEntry "max-parallel" (fun n : Int64 => .number (.int n.toInt)) s.maxParallel

/-- A strategy that sets something is read back, field by field. -/
theorem Strategy.readsBack {s : Strategy} (hset : s.isUnset = false) :
    ReadsBack Strategy.toValue Strategy.ofValue? s := by
  have hmatrix : (field? s.written "matrix").bind ValueMap.ofValue? = s.matrix :=
    bind_field?_eq (by simp [written]) fun m _ => m.readsBack
  have hfail : (field? s.written "fail-fast").bind Value.asBool? = s.failFast :=
    bind_field?_eq (by simp [written]) fun b _ => readsBack_bool b
  have hparallel : (field? s.written "max-parallel").bind Value.asInt64? = s.maxParallel :=
    bind_field?_eq (by simp [written]) fun n _ => readsBack_int64 n
  refine ⟨rfl, ?_⟩
  show ofValue? (.mapping s.written) = some s
  simp only [ofValue?, hmatrix, hfail, hparallel]
  rw [if_neg (by simp [hset])]

end CiWorkflow
