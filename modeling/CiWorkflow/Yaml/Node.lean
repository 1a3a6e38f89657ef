import CiWorkflow.Yaml.Value
/-!
# What is written

A `Node` is a piece of data on its way to a text: a value, a list, or a record whose fields are
known one by one. All three are values in the end. They differ in one respect: a mapping of a single
entry is opened only when its key is written, and if that key is opened late as well, because it is
a mapping of a single entry or has a tag, the mapping is never opened and the text cannot be
written. A record is opened at once.

Main definitions:

- `Node.toValue`: the value that is written;
- `Node.fault?`: why a node cannot be written, if so.
-/

namespace CiWorkflow.Yaml

/-- A piece of data to write. -/
inductive Node where
  | value (v : Value)
  | list (items : List Node)
  /-- A record of named pieces. -/
  | record (fields : List (Value × Node))
deriving Inhabited

/-- Why a piece of data cannot be written. -/
inductive WriteFault where
  /-- A tag directly behind another one. -/
  | nestedTag
  /-- The end of a collection in place of a value. -/
  | missingValue
  /-- The end of a collection that was not opened. -/
  | missingDocument
deriving DecidableEq

def WriteFault.text : WriteFault → String
  | .nestedTag => "serializing nested enums in YAML is not supported yet"
  | .missingValue => "expected SCALAR, SEQUENCE-START, MAPPING-START, or ALIAS"
  | .missingDocument => "expected DOCUMENT-START or STREAM-END"

namespace Node

mutual

/-- The value that is written. -/
def toValue : Node → Value
  | .value v => v
  | .list items => .sequence (toValues items)
  | .record fields => .mapping (toEntries fields)

def toValues : List Node → List Value
  | [] => []
  | n :: rest => n.toValue :: toValues rest

def toEntries : List (Value × Node) → Entries
  | [] => []
  | (k, n) :: rest => (k, n.toValue) :: toEntries rest

end

end Node

/-! ## Strokes -/

/-- A step of writing. -/
inductive Stroke where
  | scalar
  | sequenceStart
  | sequenceEnd
  | mappingStart
  | mappingEnd
  | documentStart
  | documentEnd
  /-- A tag directly behind another one. -/
  | nestedTag
deriving DecidableEq

namespace Value

/-- Whether a value is opened only when its first key is written. -/
def opensLate : Value → Bool
  | .mapping [_] => true
  | .tagged _ _ => true
  | _ => false

/-- Whether a mapping without a tag is never opened. -/
def staysClosed : Entries → Bool
  | [(key, _)] => key.opensLate
  | _ => false

mutual

/-- The steps of writing a value, behind a tag or not. -/
def strokes (tagged : Bool) : Value → List Stroke
  | .null | .bool _ | .number _ | .string _ => [.scalar]
  | .sequence items => .sequenceStart :: (strokesOfItems items ++ [.sequenceEnd])
  | .mapping entries =>
    -- the end is written even if the beginning is not
    (if !tagged && staysClosed entries then [] else [.mappingStart]) ++
      (strokesOfEntries entries ++ [.mappingEnd])
  | .tagged _ (.tagged _ _) => [.mappingStart, .nestedTag]
  | .tagged _ v => strokes true v

def strokesOfItems : List Value → List Stroke
  | [] => []
  | v :: rest => strokes false v ++ strokesOfItems rest

def strokesOfEntries : List (Value × Value) → List Stroke
  | [] => []
  | (k, v) :: rest => strokes false k ++ (strokes false v ++ strokesOfEntries rest)

end

end Value

namespace Node

mutual

/-- The steps of writing a piece of data. -/
def strokes : Node → List Stroke
  | .value v => v.strokes false
  | .list items => .sequenceStart :: (strokesOfItems items ++ [.sequenceEnd])
  | .record fields => .mappingStart :: (strokesOfFields fields ++ [.mappingEnd])

def strokesOfItems : List Node → List Stroke
  | [] => []
  | n :: rest => n.strokes ++ strokesOfItems rest

def strokesOfFields : List (Value × Node) → List Stroke
  | [] => []
  | (k, n) :: rest => k.strokes false ++ (n.strokes ++ strokesOfFields rest)

end

end Node

/-! ## Acceptance -/

namespace Stroke

/-- By how much a step changes the depth. -/
def level : Stroke → Int
  | .sequenceStart | .mappingStart | .documentStart => 1
  | .sequenceEnd | .mappingEnd | .documentEnd => -1
  | .scalar | .nestedTag => 0

/-- Put the beginning of a document before every value outside of all values, and its end behind. -/
def withDocuments (depth : Nat) : List Stroke → List Stroke
  | [] => []
  | .sequenceStart :: rest =>
    (if depth = 0 then [documentStart] else []) ++ .sequenceStart :: withDocuments (depth + 1) rest
  | .mappingStart :: rest =>
    (if depth = 0 then [documentStart] else []) ++ .mappingStart :: withDocuments (depth + 1) rest
  | .scalar :: rest =>
    if depth = 0 then documentStart :: .scalar :: documentEnd :: withDocuments 0 rest
    else .scalar :: withDocuments depth rest
  | .sequenceEnd :: rest =>
    .sequenceEnd :: (if depth = 1 then [documentEnd] else []) ++ withDocuments (depth - 1) rest
  | .mappingEnd :: rest =>
    .mappingEnd :: (if depth = 1 then [documentEnd] else []) ++ withDocuments (depth - 1) rest
  | s :: rest => s :: withDocuments depth rest

/-- How many further steps a step waits for before it is carried out. -/
def lookahead : Stroke → Nat
  | .documentStart => 1
  | .sequenceStart => 2
  | .mappingStart => 3
  | _ => 0

/-- Whether the depth comes back to where it was within these steps. -/
def closes (level : Int) : List Stroke → Bool
  | [] => false
  | s :: rest => level + s.level == 0 || closes (level + s.level) rest

/-- Whether the first of these steps is carried out when they are all there is. -/
def isReady (steps : List Stroke) : Bool :=
  match steps with
  | [] => false
  | s :: _ => s.lookahead < steps.length || closes 0 steps

/-- What is expected. -/
inductive Awaited where
  | document
  /-- The value of a document. -/
  | root
  | documentEnd
  /-- An item or the end of a sequence. -/
  | item
  /-- A key or the end of a mapping. -/
  | key
  | value

/-- What is expected behind the beginning of a value. -/
def beginValue (outer : List Awaited) : Stroke → Except WriteFault (List Awaited)
  | .scalar => .ok outer
  | .sequenceStart => .ok (.item :: outer)
  | .mappingStart => .ok (.key :: outer)
  | _ => .error .missingValue

/-- What is expected behind a step. -/
def carryOut : List Awaited → Stroke → Except WriteFault (List Awaited)
  | .item :: outer, .sequenceEnd => .ok outer
  | .key :: outer, .mappingEnd => .ok outer
  | .item :: outer, s => beginValue (.item :: outer) s
  | .key :: outer, s => beginValue (.value :: outer) s
  | .value :: outer, s => beginValue (.key :: outer) s
  | .root :: outer, s => beginValue outer s
  | .documentEnd :: outer, .documentEnd => .ok outer
  | .documentEnd :: _, _ => .error .missingDocument
  | .document :: outer, .documentStart => .ok (.root :: .documentEnd :: .document :: outer)
  | _, _ => .error .missingDocument

/-- Carry out steps, as long as enough of them are known. -/
def faultFrom? (awaited : List Awaited) : List Stroke → Option WriteFault
  | [] => none
  | .nestedTag :: _ => some .nestedTag
  | s :: rest =>
    let known := (s :: rest).takeWhile (· != .nestedTag)
    if isReady known then
      match carryOut awaited s with
      | .ok awaited => faultFrom? awaited rest
      | .error fault => some fault
    else if rest.contains .nestedTag then some .nestedTag else none

end Stroke

/-- Why a piece of data cannot be written, if so. -/
def Node.fault? (n : Node) : Option WriteFault :=
  Stroke.faultFrom? [.document] (Stroke.withDocuments 0 n.strokes)

end CiWorkflow.Yaml
