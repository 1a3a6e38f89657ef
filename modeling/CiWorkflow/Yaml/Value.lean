import CiWorkflow.Decimal.Style
/-!
# YAML values

The values that a YAML document can hold. Mappings are lists of pairs in document order, whose keys
may be any values; a local tag is kept with the value that it stands before.

Main definitions:

- `Value.same`: equality that takes mappings as sets of pairs;
- `Value.untagged` and the accessors, which look through tags;
- `Entries.get?`: the value under a text key, which looks through nothing.
-/

namespace CiWorkflow.Yaml

open Decimal (Binary64)

/-! ## Numbers -/

/-- A number: whole numbers and floating-point numbers are never equal. -/
inductive Number where
  /-- A whole number. -/
  | int (n : Int)
  /-- A floating-point number, infinities and NaN included. -/
  | float (x : Binary64)
deriving DecidableEq, Inhabited

namespace Number

/-- Floating-point numbers are written by position between the fifth place behind the point and the
sixteenth before it, and with a bare exponent elsewhere. -/
def style : Decimal.Style := .moderate ""

/-- The text of a number. -/
def text : Number → String
  | .int n => toString n
  | .float x =>
    if x.isNaN then ".nan"
    else if x.isFinite then style.text x
    else if x.isNegative then "-.inf" else ".inf"

/-- Numeric equality within each of the two kinds. -/
def same : Number → Number → Bool
  | .int a, .int b => a == b
  | .float a, .float b => a.same b
  | _, _ => false

end Number

/-! ## Values -/

inductive Value where
  | null
  | bool (b : Bool)
  | number (n : Number)
  | string (s : String)
  | sequence (items : List Value)
  /-- A mapping, in document order. -/
  | mapping (entries : List (Value × Value))
  /-- A value with a local tag, which is named without its leading exclamation mark. -/
  | tagged (tag : String) (value : Value)
deriving Inhabited

/-- The pairs of a mapping, in document order. -/
abbrev Entries := List (Value × Value)

namespace Value

/-! ### Deciding equality -/

mutual

def decEq : (a b : Value) → Decidable (a = b)
  | .null, .null => isTrue rfl
  | .bool a, .bool b => if h : a = b then isTrue (h ▸ rfl) else isFalse (by simp [h])
  | .number a, .number b => if h : a = b then isTrue (h ▸ rfl) else isFalse (by simp [h])
  | .string a, .string b => if h : a = b then isTrue (h ▸ rfl) else isFalse (by simp [h])
  | .sequence a, .sequence b =>
    match decEqItems a b with
    | isTrue h => isTrue (h ▸ rfl)
    | isFalse h => isFalse (by simp [h])
  | .mapping a, .mapping b =>
    match decEqEntries a b with
    | isTrue h => isTrue (h ▸ rfl)
    | isFalse h => isFalse (by simp [h])
  | .tagged s a, .tagged t b =>
    if ht : s = t then
      match decEq a b with
      | isTrue h => isTrue (h ▸ ht ▸ rfl)
      | isFalse h => isFalse (by simp [h])
    else isFalse (by simp [ht])
  | .null, .bool _ | .null, .number _ | .null, .string _ | .null, .sequence _
  | .null, .mapping _ | .null, .tagged _ _ | .bool _, .null | .bool _, .number _
  | .bool _, .string _ | .bool _, .sequence _ | .bool _, .mapping _ | .bool _, .tagged _ _
  | .number _, .null | .number _, .bool _ | .number _, .string _ | .number _, .sequence _
  | .number _, .mapping _ | .number _, .tagged _ _ | .string _, .null | .string _, .bool _
  | .string _, .number _ | .string _, .sequence _ | .string _, .mapping _
  | .string _, .tagged _ _ | .sequence _, .null | .sequence _, .bool _
  | .sequence _, .number _ | .sequence _, .string _ | .sequence _, .mapping _
  | .sequence _, .tagged _ _ | .mapping _, .null | .mapping _, .bool _
  | .mapping _, .number _ | .mapping _, .string _ | .mapping _, .sequence _
  | .mapping _, .tagged _ _ | .tagged _ _, .null | .tagged _ _, .bool _
  | .tagged _ _, .number _ | .tagged _ _, .string _ | .tagged _ _, .sequence _
  | .tagged _ _, .mapping _ => isFalse (by simp)

def decEqItems : (a b : List Value) → Decidable (a = b)
  | [], [] => isTrue rfl
  | a :: as, b :: bs =>
    match decEq a b, decEqItems as bs with
    | isTrue h, isTrue hs => isTrue (h ▸ hs ▸ rfl)
    | isFalse h, _ => isFalse (by simp [h])
    | _, isFalse hs => isFalse (by simp [hs])
  | [], _ :: _ => isFalse (by simp)
  | _ :: _, [] => isFalse (by simp)

def decEqEntries : (a b : List (Value × Value)) → Decidable (a = b)
  | [], [] => isTrue rfl
  | (k, v) :: as, (l, w) :: bs =>
    match decEq k l, decEq v w, decEqEntries as bs with
    | isTrue hk, isTrue hv, isTrue hs => isTrue (hk ▸ hv ▸ hs ▸ rfl)
    | isFalse hk, _, _ => isFalse (by simp [hk])
    | _, isFalse hv, _ => isFalse (by simp [hv])
    | _, _, isFalse hs => isFalse (by simp [hs])
  | [], _ :: _ => isFalse (by simp)
  | _ :: _, [] => isFalse (by simp)

end

instance : DecidableEq Value := decEq

/-! ### Sameness -/

mutual

/-- Equality that takes mappings as sets of pairs and numbers by their value. -/
def same : Value → Value → Bool
  | .null, .null => true
  | .bool a, .bool b => a == b
  | .number a, .number b => a.same b
  | .string a, .string b => a == b
  | .sequence a, .sequence b => sameItems a b
  | .mapping a, .mapping b => a.length == b.length && subsetEntries a b
  | .tagged s a, .tagged t b => s == t && same a b
  | _, _ => false

/-- Item by item the same. -/
def sameItems : List Value → List Value → Bool
  | [], [] => true
  | a :: as, b :: bs => same a b && sameItems as bs
  | _, _ => false

/-- Every pair of the first list is among those of the second. -/
def subsetEntries : List (Value × Value) → List (Value × Value) → Bool
  | [], _ => true
  | (k, v) :: rest, es => es.any (fun e => same k e.1 && same v e.2) && subsetEntries rest es

end

/-- The key among those of the pairs that is the same as a given one. -/
def findKey? (key : Value) (entries : Entries) : Option Value :=
  (entries.find? fun e => same key e.1).map Prod.fst

/-! ### Looking through tags -/

/-- The value without the tags before it. -/
def untagged : Value → Value
  | .tagged _ v => v.untagged
  | v => v

def asString? (v : Value) : Option String :=
  match v.untagged with
  | .string s => some s
  | _ => none

def asBool? (v : Value) : Option Bool :=
  match v.untagged with
  | .bool b => some b
  | _ => none

/-- A whole number that fits 64 bits with a sign. -/
def asInt64? (v : Value) : Option Int64 :=
  match v.untagged with
  | .number (.int n) =>
    if -0x8000000000000000 ≤ n && n < 0x8000000000000000 then some (.ofInt n) else none
  | _ => none

def asSequence? (v : Value) : Option (List Value) :=
  match v.untagged with
  | .sequence items => some items
  | _ => none

def isString (v : Value) : Bool := v.asString?.isSome

def isNull (v : Value) : Bool :=
  match v.untagged with
  | .null => true
  | _ => false

/-- A text is seen through any number of tags. -/
theorem asString?_eq_some_iff {v : Value} {s : String} :
    v.asString? = some s ↔ v.untagged = .string s := by
  unfold asString?
  split <;> simp_all

theorem asSequence?_eq_some_iff {v : Value} {items : List Value} :
    v.asSequence? = some items ↔ v.untagged = .sequence items := by
  unfold asSequence?
  split <;> simp_all

theorem isString_iff {v : Value} : v.isString = true ↔ ∃ s, v.untagged = .string s := by
  unfold isString
  simp only [Option.isSome_iff_exists, asString?_eq_some_iff]

theorem isNull_iff {v : Value} : v.isNull = true ↔ v.untagged = .null := by
  unfold isNull
  split <;> simp_all

/-! ### Scalars -/

/-- The text by which a scalar without a tag serves as a key or a name; nothing has none. -/
def scalarText? : Value → Option String
  | .string s => some s
  | .number n => some n.text
  | .bool b => some (toString b)
  | _ => none

end Value

/-- The value under a text key without a tag. -/
def Entries.get? (entries : Entries) (key : String) : Option Value :=
  (entries.find? fun e => e.1 == .string key).map Prod.snd

end CiWorkflow.Yaml
