/-!
# Keyed lists

A `KeyedList α` holds values under distinct string keys and remembers the order in which the keys
came. Putting a value under a key that is already there replaces the value and leaves the key where
it stands.

Main statements:

- `keys_insert`: a new key goes to the end, a known key keeps its place;
- `get?_insert`: the value that was put in is found, and no other key is touched;
- `get?_erase`: an erased key is gone, and no other key is touched;
- `get?_eq_some_iff`: the values found are those of the entries;
- `ofList_entries`: the entries of a list put in one after the other give the list back;
- `size_ofList_eq_iff`: nothing is replaced on the way exactly where all keys are different.
-/

namespace CiWorkflow

/-- Values under distinct string keys, in the order in which the keys first came. -/
structure KeyedList (α : Type) where
  /-- The keys with their values, in order. -/
  entries : List (String × α)
  /-- No key stands twice. -/
  distinct : (entries.map Prod.fst).Nodup
deriving DecidableEq

namespace KeyedList

variable {α β : Type}

/-! ## Looking up -/

def keys (m : KeyedList α) : List String := m.entries.map Prod.fst

/-- The values, in the order of their keys. -/
def values (m : KeyedList α) : List α := m.entries.map Prod.snd

def size (m : KeyedList α) : Nat := m.entries.length

def isEmpty (m : KeyedList α) : Bool := m.entries.isEmpty

def get? (m : KeyedList α) (key : String) : Option α :=
  (m.entries.find? fun e => e.1 == key).map Prod.snd

def contains (m : KeyedList α) (key : String) : Bool := m.keys.contains key

/-! ## Building -/

def empty : KeyedList α := ⟨[], List.nodup_nil⟩

instance : EmptyCollection (KeyedList α) := ⟨empty⟩

instance : Inhabited (KeyedList α) := ⟨empty⟩

def singleton (key : String) (value : α) : KeyedList α := ⟨[(key, value)], by simp⟩

/-- Entries after a value is put under a key: in place of the old value, or at the end. -/
def put (key : String) (value : α) : List (String × α) → List (String × α)
  | [] => [(key, value)]
  | e :: rest => if e.1 = key then (key, value) :: rest else e :: put key value rest

theorem map_fst_put (key : String) (value : α) (es : List (String × α)) :
    (put key value es).map Prod.fst =
      if key ∈ es.map Prod.fst then es.map Prod.fst else es.map Prod.fst ++ [key] := by
  induction es with
  | nil => simp [put]
  | cons e rest ih =>
    by_cases h : e.1 = key
    · simp [put, h]
    · have h' : key ≠ e.1 := fun h'' => h h''.symm
      by_cases hk : key ∈ rest.map Prod.fst
      · simp [put, h, ih, hk]
      · simp only [put, h, if_false, List.map_cons, ih, hk, List.mem_cons, h', or_self,
          List.cons_append]

theorem nodup_put (key : String) (value : α) {es : List (String × α)}
    (h : (es.map Prod.fst).Nodup) : ((put key value es).map Prod.fst).Nodup := by
  rw [map_fst_put]
  split
  · exact h
  · rename_i hk
    exact List.nodup_append.2 ⟨h, by simp, by
      intro a ha b hb
      simp only [List.mem_singleton] at hb
      subst hb
      exact fun hab => hk (hab ▸ ha)⟩

/-- Put a value under a key: a known key keeps its place, a new one goes to the end. -/
def insert (m : KeyedList α) (key : String) (value : α) : KeyedList α :=
  ⟨put key value m.entries, nodup_put key value m.distinct⟩

/-- The list that results from putting the pairs in one after the other. -/
def ofList (pairs : List (String × α)) : KeyedList α :=
  pairs.foldl (fun m e => m.insert e.1 e.2) empty

def erase (m : KeyedList α) (key : String) : KeyedList α :=
  ⟨m.entries.filter fun e => e.1 != key,
    (List.filter_sublist.map Prod.fst).nodup m.distinct⟩

/-- Change every value, with its key at hand. -/
def mapWithKey (f : String → α → β) (m : KeyedList α) : KeyedList β :=
  ⟨m.entries.map fun e => (e.1, f e.1 e.2), by
    simpa [List.map_map, Function.comp_def] using m.distinct⟩

/-- Change every value. -/
def mapValues (f : α → β) (m : KeyedList α) : KeyedList β := m.mapWithKey fun _ => f

/-- Change the value under one key, if that key is there. -/
def modify (m : KeyedList α) (key : String) (f : α → α) : KeyedList α :=
  m.mapWithKey fun k v => if k = key then f v else v

/-! ## Comparing -/

/-- Whether two lists hold the same values under the same keys, in whatever order. -/
def sameBy (eq : α → α → Bool) (a b : KeyedList α) : Bool :=
  a.size == b.size && a.entries.all fun e => (b.get? e.1).any (eq e.2)

/-! ## Laws -/

theorem contains_iff {m : KeyedList α} {key : String} : m.contains key = true ↔ key ∈ m.keys := by
  simp [contains]

/-- A key that is there stays in its place, and a new one goes to the end. -/
theorem keys_insert (m : KeyedList α) (key : String) (value : α) :
    (m.insert key value).keys = if key ∈ m.keys then m.keys else m.keys ++ [key] :=
  map_fst_put key value m.entries

@[simp] theorem keys_mapWithKey (f : String → α → β) (m : KeyedList α) :
    (m.mapWithKey f).keys = m.keys := by
  simp [keys, mapWithKey, Function.comp_def]

@[simp] theorem keys_modify (m : KeyedList α) (key : String) (f : α → α) :
    (m.modify key f).keys = m.keys := keys_mapWithKey _ m

theorem filter_bne_eq_self {keys : List String} {key : String} (h : key ∉ keys) :
    keys.filter (· != key) = keys := by
  rw [List.filter_eq_self]
  intro other hother
  simpa using fun heq : other = key => h (heq ▸ hother)

theorem keys_erase (m : KeyedList α) (key : String) :
    (m.erase key).keys = m.keys.filter (· != key) := by
  simp [keys, erase, List.filter_map, Function.comp_def]

private theorem find?_put (key other : String) (value : α) (es : List (String × α)) :
    ((put key value es).find? fun e => e.1 == other).map Prod.snd =
      if key = other then some value else (es.find? fun e => e.1 == other).map Prod.snd := by
  induction es with
  | nil => by_cases h : key = other <;> simp [put, h]
  | cons e rest ih =>
    by_cases he : e.1 = key
    · by_cases h : key = other <;> simp [put, he, h]
    · by_cases h : e.1 = other
      · have hk : key ≠ other := fun hk => he (h.trans hk.symm)
        have hok : other ≠ key := Ne.symm hk
        simp [put, h, hk, hok]
      · simp [put, he, h, ih]

/-- The value that is put in is found, also where there was one before. -/
theorem get?_insert (m : KeyedList α) (key other : String) (value : α) :
    (m.insert key value).get? other = if key = other then some value else m.get? other :=
  find?_put key other value m.entries

/-- What is removed is found no more. -/
theorem get?_erase (m : KeyedList α) (key other : String) :
    (m.erase key).get? other = if key = other then none else m.get? other := by
  simp only [get?, erase, List.find?_filter]
  by_cases h : key = other
  · subst h
    simp
  · rw [if_neg h]
    congr 2
    funext e
    by_cases he : e.1 = other
    · have : e.1 ≠ key := fun hk => h (hk.symm.trans he)
      simp [he, Ne.symm h]
    · simp [he]

theorem get?_mapWithKey (f : String → α → β) (m : KeyedList α) (key : String) :
    (m.mapWithKey f).get? key = (m.get? key).map (f key) := by
  simp only [get?, mapWithKey, List.find?_map, Option.map_map, Function.comp_def]
  cases hfind : m.entries.find? fun e => e.1 == key with
  | none => rfl
  | some e =>
    have hkey : e.1 = key := by simpa using List.find?_some hfind
    rw [Option.map_some, Option.map_some, hkey]

theorem get?_mapValues (f : α → β) (m : KeyedList α) (key : String) :
    (m.mapValues f).get? key = (m.get? key).map f :=
  get?_mapWithKey (fun _ => f) m key

theorem get?_modify (m : KeyedList α) (key other : String) (f : α → α) :
    (m.modify key f).get? other = (m.get? other).map fun v => if other = key then f v else v :=
  get?_mapWithKey _ m other

theorem isSome_get? (m : KeyedList α) (key : String) :
    (m.get? key).isSome = m.contains key := by
  rw [Bool.eq_iff_iff]
  simp [get?, contains, keys, List.find?_isSome]

/-- Two lists with the same entries are equal. -/
theorem ext_entries {m n : KeyedList α} (h : m.entries = n.entries) : m = n := by
  cases m
  cases n
  cases h
  rfl

/-- Among distinct keys, the first entry under a key is the only one. -/
private theorem find?_of_mem {es : List (String × α)} {e : String × α}
    (hdistinct : (es.map Prod.fst).Nodup) (he : e ∈ es) :
    (es.find? fun d => d.1 == e.1) = some e := by
  induction es with
  | nil => cases he
  | cons d rest ih =>
    rw [List.map_cons, List.nodup_cons] at hdistinct
    rcases List.mem_cons.mp he with rfl | he
    · simp
    · -- the key stands once, so that the search does not stop before it
      have hne : d.1 ≠ e.1 := fun heq =>
        hdistinct.1 (heq ▸ List.mem_map_of_mem (f := Prod.fst) he)
      rw [List.find?_cons_of_neg (by simpa using hne)]
      exact ih hdistinct.2 he

/-- Since no key stands twice, the value that is found is the only one of its key. -/
theorem get?_eq_some_iff {m : KeyedList α} {key : String} {value : α} :
    m.get? key = some value ↔ (key, value) ∈ m.entries := by
  constructor
  · intro h
    obtain ⟨e, hfind, rfl⟩ := Option.map_eq_some_iff.mp h
    have hkey : e.1 = key := by simpa using List.find?_some hfind
    exact hkey ▸ List.mem_of_find?_eq_some hfind
  · intro h
    simp [get?, find?_of_mem m.distinct h]

/-- Nothing is found just where the key is missing. -/
theorem get?_eq_none_iff {m : KeyedList α} {key : String} :
    m.get? key = none ↔ key ∉ m.keys := by
  rw [← contains_iff, ← isSome_get?]
  cases m.get? key <;> simp

theorem isEmpty_iff {m : KeyedList α} : m.isEmpty = true ↔ m = empty := by
  constructor
  · exact fun h => ext_entries (List.isEmpty_iff.mp h)
  · rintro rfl
    rfl

theorem put_of_not_mem {key : String} {value : α} {es : List (String × α)}
    (h : key ∉ es.map Prod.fst) : put key value es = es ++ [(key, value)] := by
  induction es with
  | nil => rfl
  | cons e rest ih =>
    simp only [List.map_cons, List.mem_cons, not_or] at h
    rw [put, if_neg (Ne.symm h.1), ih h.2, List.cons_append]

/-- What is put in under new and distinct keys goes to the end in its order. -/
private theorem entries_foldl_insert (m : KeyedList α) (pairs : List (String × α))
    (h : ((m.entries ++ pairs).map Prod.fst).Nodup) :
    (pairs.foldl (fun m e => m.insert e.1 e.2) m).entries = m.entries ++ pairs := by
  induction pairs generalizing m with
  | nil => simp
  | cons e rest ih =>
    -- a new key goes to the end, and stays apart from those to come
    have hnew : e.1 ∉ m.entries.map Prod.fst := by
      intro hmem
      rw [List.map_append, List.nodup_append] at h
      exact h.2.2 _ hmem _ (by simp) rfl
    have hentries : (m.insert e.1 e.2).entries = m.entries ++ [e] := put_of_not_mem hnew
    rw [List.foldl_cons, ih, hentries, List.append_assoc, List.singleton_append]
    rwa [hentries, List.append_assoc, List.singleton_append]

/-- Pairs with different keys are all kept, in their order. -/
theorem entries_ofList {pairs : List (String × α)} (h : (pairs.map Prod.fst).Nodup) :
    (ofList pairs).entries = pairs :=
  entries_foldl_insert empty pairs h

/-- Reading the entries of a list in order gives the list back. -/
theorem ofList_entries (m : KeyedList α) : ofList m.entries = m :=
  ext_entries (entries_ofList m.distinct)

theorem length_keys (m : KeyedList α) : m.keys.length = m.size := List.length_map ..

theorem size_insert (m : KeyedList α) (key : String) (value : α) :
    (m.insert key value).size = if key ∈ m.keys then m.size else m.size + 1 := by
  rw [← length_keys, keys_insert]
  split
  · exact m.length_keys
  · rw [List.length_append, m.length_keys, List.length_singleton]

private theorem size_foldl_insert_le (m : KeyedList α) (pairs : List (String × α)) :
    (pairs.foldl (fun m e => m.insert e.1 e.2) m).size ≤ m.size + pairs.length := by
  induction pairs generalizing m with
  | nil => exact Nat.le_refl _
  | cons e rest ih =>
    have hrest := ih (m.insert e.1 e.2)
    have hinsert := m.size_insert e.1 e.2
    rw [List.foldl_cons, List.length_cons]
    split at hinsert <;> omega

/-- There are not more keys than pairs. -/
theorem size_ofList_le (pairs : List (String × α)) : (ofList pairs).size ≤ pairs.length := by
  have hle := size_foldl_insert_le empty pairs
  rwa [show (empty : KeyedList α).size = 0 from rfl, Nat.zero_add] at hle

/-- If every pair counts, every pair has brought a new key. -/
private theorem nodup_of_size_foldl_insert {m : KeyedList α} {pairs : List (String × α)}
    (h : m.size + pairs.length ≤ (pairs.foldl (fun m e => m.insert e.1 e.2) m).size) :
    (m.keys ++ pairs.map Prod.fst).Nodup := by
  induction pairs generalizing m with
  | nil => simpa [keys] using m.distinct
  | cons e rest ih =>
    have hrest := size_foldl_insert_le (m.insert e.1 e.2) rest
    have hinsert := m.size_insert e.1 e.2
    rw [List.foldl_cons, List.length_cons] at h
    split at hinsert
    · -- a key that was there already would leave the list too short
      omega
    · next hnew =>
      have hnodup := ih (m := m.insert e.1 e.2) (by omega)
      rwa [keys_insert, if_neg hnew, List.append_assoc, List.singleton_append] at hnodup

/-- There are as many keys as pairs exactly where no two pairs have the same key. -/
theorem size_ofList_eq_iff {pairs : List (String × α)} :
    (ofList pairs).size = pairs.length ↔ (pairs.map Prod.fst).Nodup := by
  constructor
  · intro h
    exact nodup_of_size_foldl_insert (m := empty)
      (Nat.le_of_eq ((Nat.zero_add pairs.length).trans h.symm))
  · intro h
    exact congrArg List.length (entries_ofList h)

private theorem mem_put {key : String} {value : α} {es : List (String × α)} {e : String × α}
    (h : e ∈ put key value es) : e = (key, value) ∨ e ∈ es := by
  induction es with
  | nil => exact Or.inl (List.mem_singleton.mp h)
  | cons d rest ih =>
    rw [put] at h
    split at h
    · exact (List.mem_cons.mp h).imp_right (List.mem_cons_of_mem d)
    · rcases List.mem_cons.mp h with rfl | h
      · exact Or.inr (List.mem_cons_self ..)
      · exact (ih h).imp_right (List.mem_cons_of_mem d)

private theorem mem_foldl_insert {m : KeyedList α} {pairs : List (String × α)} {e : String × α}
    (h : e ∈ (pairs.foldl (fun m e => m.insert e.1 e.2) m).entries) :
    e ∈ m.entries ∨ e ∈ pairs := by
  induction pairs generalizing m with
  | nil => exact Or.inl h
  | cons d rest ih =>
    rcases ih h with h | h
    · rcases mem_put h with rfl | h
      · exact Or.inr (List.mem_cons_self ..)
      · exact Or.inl h
    · exact Or.inr (List.mem_cons_of_mem d h)

/-- Every entry was put in. -/
theorem mem_of_mem_ofList {pairs : List (String × α)} {e : String × α}
    (h : e ∈ (ofList pairs).entries) : e ∈ pairs :=
  (mem_foldl_insert h).resolve_left (by simp [empty])

theorem entries_mapValues (f : α → β) (m : KeyedList α) :
    (m.mapValues f).entries = m.entries.map fun e => (e.1, f e.2) := rfl

/-- A change that changes no value of a list leaves the list as it is. -/
theorem mapValues_eq_self {m : KeyedList α} {f : α → α} (h : ∀ e ∈ m.entries, f e.2 = e.2) :
    m.mapValues f = m := by
  have hentries : ∀ e ∈ m.entries, (e.1, f e.2) = id e := fun e he => by rw [h e he, id]
  apply ext_entries
  rw [entries_mapValues, List.map_congr_left hentries, List.map_id]

/-- A change of all values leaves the list alone if it leaves each value alone. -/
theorem mapValues_eq_self_iff {m : KeyedList α} {f : α → α} :
    m.mapValues f = m ↔ ∀ key value, m.get? key = some value → f value = value := by
  constructor
  · intro h key value hvalue
    have hget := get?_mapValues f m key
    rw [h, hvalue] at hget
    exact (Option.some.inj hget).symm
  · intro h
    exact mapValues_eq_self fun e he => h e.1 e.2 (get?_eq_some_iff.mpr he)

theorem mapValues_mapValues {γ : Type} (m : KeyedList α) (f : α → β) (g : β → γ) :
    (m.mapValues f).mapValues g = m.mapValues fun v => g (f v) := by
  apply ext_entries
  rw [entries_mapValues, entries_mapValues, entries_mapValues, List.map_map]
  rfl

theorem erase_mapValues (m : KeyedList α) (f : α → β) (key : String) :
    (m.mapValues f).erase key = (m.erase key).mapValues f := by
  apply ext_entries
  show (m.entries.map _).filter _ = (m.entries.filter _).map _
  rw [List.filter_map]
  rfl

/-- Keys may be removed in any order. -/
theorem erase_comm (m : KeyedList α) (key other : String) :
    (m.erase key).erase other = (m.erase other).erase key := by
  apply ext_entries
  show (m.entries.filter _).filter _ = (m.entries.filter _).filter _
  rw [List.filter_filter, List.filter_filter]
  exact List.filter_congr fun _ _ => Bool.and_comm ..

theorem modify_modify (m : KeyedList α) (key : String) (f g : α → α) :
    (m.modify key f).modify key g = m.modify key fun v => g (f v) := by
  apply ext_entries
  show (m.entries.map _).map _ = m.entries.map _
  rw [List.map_map]
  apply List.map_congr_left
  intro e _
  by_cases hkey : e.1 = key <;> simp [hkey]

private theorem map_modify_eq_self {es : List (String × α)} {key : String} {f : α → α}
    (h : ∀ e ∈ es, e.1 = key → f e.2 = e.2) :
    (es.map fun e => (e.1, if e.1 = key then f e.2 else e.2)) = es := by
  induction es with
  | nil => rfl
  | cons e rest ih =>
    rw [List.map_cons, ih fun d hd => h d (List.mem_cons_of_mem e hd)]
    by_cases hkey : e.1 = key
    · rw [if_pos hkey, h e (List.mem_cons_self ..) hkey]
    · rw [if_neg hkey]

/-- A change that does not change the value under the key leaves the list as it is. -/
theorem modify_eq_self {m : KeyedList α} {key : String} {f : α → α}
    (h : ∀ value, m.get? key = some value → f value = value) : m.modify key f = m := by
  apply ext_entries
  apply map_modify_eq_self
  rintro ⟨_, value⟩ he rfl
  exact h value (get?_eq_some_iff.mpr he)

/-- A change of the value under a key leaves what stands before it and behind it. -/
theorem exists_entries_modify {m : KeyedList α} {key : String} {value : α}
    (h : m.get? key = some value) :
    ∃ front behind, m.entries = front ++ (key, value) :: behind ∧
      ∀ f, (m.modify key f).entries = front ++ (key, f value) :: behind := by
  obtain ⟨front, behind, hentries⟩ := List.append_of_mem (get?_eq_some_iff.mp h)
  have hdistinct := m.distinct
  rw [hentries, List.map_append, List.map_cons, List.nodup_append, List.nodup_cons] at hdistinct
  obtain ⟨_, ⟨hbehind, _⟩, hfront⟩ := hdistinct
  refine ⟨front, behind, hentries, fun f => ?_⟩
  show (m.entries.map fun e => (e.1, if e.1 = key then f e.2 else e.2)) = _
  rw [hentries, List.map_append, List.map_cons, if_pos rfl]
  -- no other entry has the key
  have hbefore : ∀ e ∈ front, e.1 = key → f e.2 = e.2 := fun e he hkey =>
    absurd hkey (hfront e.1 (List.mem_map_of_mem he) key (List.mem_cons_self ..))
  have hafter : ∀ e ∈ behind, e.1 = key → f e.2 = e.2 := by
    rintro e he rfl
    exact absurd (List.mem_map_of_mem he) hbehind
  rw [map_modify_eq_self hbefore, map_modify_eq_self hafter]

/-- What is made of the entry of one key, wherever it stands. -/
theorem flatMap_entries_of_key (m : KeyedList α) (key : String) (f : α → List β) :
    (m.entries.flatMap fun e => if e.1 = key then f e.2 else []) = (m.get? key).elim [] f := by
  obtain ⟨es, hdistinct⟩ := m
  show (es.flatMap _) = ((es.find? fun e => e.1 == key).map Prod.snd).elim [] f
  induction es with
  | nil => rfl
  | cons e rest ih =>
    rw [List.map_cons, List.nodup_cons] at hdistinct
    rw [List.flatMap_cons]
    rcases Classical.em (e.1 = key) with rfl | hother
    · -- the rest has no such key
      have hrest : (rest.flatMap fun d => if d.1 = e.1 then f d.2 else []) = [] := by
        rw [List.flatMap_eq_nil_iff]
        intro d hd
        rw [if_neg]
        intro hsame
        exact hdistinct.1 (hsame ▸ List.mem_map_of_mem (f := Prod.fst) hd)
      rw [if_pos rfl, hrest, List.append_nil, List.find?_cons_of_pos (by simp)]
      rfl
    · rw [if_neg hother, List.nil_append, ih hdistinct.2,
        List.find?_cons_of_neg (by simpa using hother)]

end KeyedList

end CiWorkflow
