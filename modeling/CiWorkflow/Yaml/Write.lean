import CiWorkflow.Yaml.Node
import CiWorkflow.Yaml.Scalar
/-!
# Texts of values

The canonical text of a value: block style, two columns of indentation, and sequences in mappings at
the column of their key. Every value ends with the end of a line.

Main definitions:

- `Value.text`: the text of a value;
- `Node.toText`: the text of a node, unless it has a fault.
-/

namespace CiWorkflow.Yaml

/-! ## Tags -/

/-- Whether a character is written as it is in a tag. -/
def isTagLetter (c : Char) : Bool :=
  c.isAlphanum || "-_;/?:@&=+$,.~*'()[]".toList.contains c

/-- A character of a tag, by its octets where it cannot stand there. -/
def tagLetter (c : Char) : List Char :=
  if isTagLetter c then [c]
  else c.toString.toUTF8.toList.flatMap fun b => '%' :: Scalar.hexDigits 2 b.toNat

/-- A tag. The one that is nothing but an exclamation mark has to be written in full. -/
def tagMark (tag : String) : String :=
  match tag.toList with
  | ['!'] => "!<%21>"
  | '!' :: rest => "!" ++ String.ofList (rest.flatMap tagLetter)
  | cs => "!" ++ String.ofList (cs.flatMap tagLetter)

/-- The number of bytes of a tag before escapes. -/
def tagSize (tag : String) : Nat :=
  if tag.startsWith "!" then tag.utf8ByteSize else tag.utf8ByteSize + 1

/-! ## Scalars and keys -/

namespace Value

/-- The text of a scalar of another kind than text. -/
def plainText? : Value → Option String
  | .null => some "null"
  | .bool b => some (toString b)
  | .number n => some n.text
  | _ => none

/-- Whether a key is written before its colon: not if it has lines, is long, or holds something. -/
def isSimpleKey (tagBytes : Nat) : Value → Bool
  | .tagged tag v => isSimpleKey (tagSize tag) v
  | .string s => tagBytes + s.utf8ByteSize ≤ 128 && !Scalar.isMultiline s.toList
  | .sequence items => items.isEmpty && tagBytes ≤ 128
  | .mapping entries => entries.isEmpty && tagBytes ≤ 128
  | v => tagBytes + ((v.plainText?.map String.utf8ByteSize).getD 0) ≤ 128

/-- The text of a key before its colon. -/
def keyText (indent : Nat) : Value → String
  | .tagged tag v => tagMark tag ++ " " ++ keyText indent v
  | .string s => (Scalar.written (indent + 2) s).1
  | .sequence _ => "[]"
  | .mapping _ => "\x7b\x7d"
  | v => v.plainText?.getD ""

/-! ## Collections -/

/-- Where a value stands. -/
inductive Place where
  /-- Nowhere but in the document. -/
  | root
  /-- Behind the dash of an item. -/
  | item
  /-- Behind a key and its colon. -/
  | value
  /-- Behind the mark of a key or a value in a line of its own. -/
  | marked
deriving DecidableEq

/-- The column of a collection, by the column of the one around it. A sequence in a mapping stays at
the column of the mapping if it begins in a new line. -/
def column (place : Place) (inline sequence : Bool) (around : Nat) : Nat :=
  match place with
  | .root => 0
  | .item => around + 2
  | .value => if sequence then around else around + 2
  | .marked => if sequence && !inline then around else around + 2

/-- What stands before the first entry of a collection: it may stay in the line of an item, unless a
tag stands there already. -/
def lead (place : Place) (tag : String) (column : Nat) : String :=
  match place, tag.isEmpty with
  | .root, true => ""
  | .item, true | .marked, true => " "
  | _, _ => "\n" ++ String.ofList (Scalar.spaces column)

/-- A tag or a scalar behind what stands before it. -/
def apart (place : Place) (text : String) : String :=
  if place = .root then text else " " ++ text

mutual

/-- The text of a value behind what stands before it, up to the end of its last line. -/
def block (place : Place) (around : Nat) (tag : String) : Value → String
  | .tagged t v => block place around (apart place (tagMark t)) v
  | .string s =>
    let indent := if place = .root then 2 else around + 2
    let (text, ended) := Scalar.written indent s
    tag ++ (if tag.isEmpty then apart place text else " " ++ text) ++ if ended then "" else "\n"
  | .sequence [] => tag ++ (if tag.isEmpty then apart place "[]" else " []") ++ "\n"
  | .mapping [] =>
    tag ++ (if tag.isEmpty then apart place "\x7b\x7d" else " \x7b\x7d") ++ "\n"
  | .sequence (v :: rest) =>
    let c := column place tag.isEmpty true around
    tag ++ lead place tag c ++ "-" ++ block .item c "" v ++ itemsText c rest
  | .mapping ((k, v) :: rest) =>
    let c := column place tag.isEmpty false around
    tag ++ lead place tag c ++
      (if k.isSimpleKey 0 then k.keyText c ++ ":" ++ block .value c "" v
      else "?" ++ block .marked c "" k ++ String.ofList (Scalar.spaces c) ++ ":" ++
        block .marked c "" v) ++
      pairsText c rest
  | v =>
    let text := v.plainText?.getD ""
    tag ++ (if tag.isEmpty then apart place text else " " ++ text) ++ "\n"

/-- The lines of items at a column. -/
def itemsText (column : Nat) : List Value → String
  | [] => ""
  | v :: rest =>
    String.ofList (Scalar.spaces column) ++ "-" ++ block .item column "" v ++ itemsText column rest

/-- The lines of pairs at a column. -/
def pairsText (column : Nat) : List (Value × Value) → String
  | [] => ""
  | (k, v) :: rest =>
    String.ofList (Scalar.spaces column) ++
      (if k.isSimpleKey 0 then k.keyText column ++ ":" ++ block .value column "" v
      else "?" ++ block .marked column "" k ++ String.ofList (Scalar.spaces column) ++ ":" ++
        block .marked column "" v) ++
      pairsText column rest

end

/-- The canonical text of a value. -/
def text (v : Value) : String := block .root 0 "" v

end Value

/-- The canonical text of a piece of data. -/
def Node.toText (n : Node) : Except WriteFault String :=
  match n.fault? with
  | some fault => .error fault
  | none => .ok n.toValue.text

end CiWorkflow.Yaml
