import CiWorkflow.Yaml.Document
/-!
# Values of documents

How the value of a document is built. Anything may be a key, but no key may come twice.

Main definitions:

- `Build.value`: builds the next value of a document;
- `Value.ofText`: the value of a text.
-/

namespace CiWorkflow.Yaml

namespace Build

/-- The value of a scalar. -/
def scalarValue (tag : Option TagText) (tagCounted : Bool) (text : String) (style : ScalarStyle) :
    Build Value :=
  match Scalar.meaning tag tagCounted text style with
  | .ok m =>
    match m.toValue with
    | .ok v => return v
    | .error fault => fail fault
  | .error fault => fail fault

mutual

/-- Build the next value. A local tag is counted first, and then the value behind it is built. -/
def value (fuel depth : Nat) (path : Path) (tagCounted : Bool) : Build Value := do
  match fuel with
  | 0 => throw .noValue
  | fuel + 1 =>
    let (event, mark) ← next
    located mark path do
      match event with
      | .reference target => follow target (value fuel depth (.reference path) false)
      | .scalar tag text style =>
        match if tagCounted then none else Scalar.localTag? tag with
        | some name =>
          back
          return .tagged name (← value fuel depth path true)
        | none => scalarValue tag tagCounted text style
      | .sequenceStart tag =>
        match if tagCounted then none else Scalar.localTag? tag with
        | some name =>
          back
          return .tagged name (← value fuel depth path true)
        | none =>
          match depth with
          | 0 => throw (.tooDeep mark)
          | depth + 1 => return .sequence (← items fuel depth path [])
      | .mappingStart tag =>
        match if tagCounted then none else Scalar.localTag? tag with
        | some name =>
          back
          return .tagged name (← value fuel depth path true)
        | none =>
          match depth with
          | 0 => throw (.tooDeep mark)
          | depth + 1 => return .mapping (← pairs fuel depth path [])
      | .sequenceEnd | .mappingEnd | .absent => return .null

/-- Build the items of a sequence up to its end, after those given, the last one first. -/
def items (fuel depth : Nat) (path : Path) (done : List Value) : Build (List Value) := do
  match fuel with
  | 0 => throw .noValue
  | fuel + 1 =>
    match ← peek with
    | (.sequenceEnd, _) =>
      advance
      return done.reverse
    | _ =>
      let v ← value fuel depth (.item path done.length) false
      items fuel depth path (v :: done)

/-- Build the pairs of a mapping up to its end, after those given, the last one first. -/
def pairs (fuel depth : Nat) (path : Path) (done : Entries) : Build Entries := do
  match fuel with
  | 0 => throw .noValue
  | fuel + 1 =>
    let (event, _) ← peek
    match event with
    | .mappingEnd =>
      advance
      return done.reverse
    | _ =>
      let place := match event with
        | .scalar _ text _ => Path.field path text
        | _ => .unnamed path
      let k ← value fuel depth path false
      match Value.findKey? k done with
      | some first => fail (.duplicateKey first)
      | none =>
        let v ← value fuel depth place false
        pairs fuel depth path ((k, v) :: done)

end

end Build

/-- The value that a YAML text holds. -/
def Value.ofText (text : String) : Except Problem Value :=
  let d := Document.ofText text
  d.build (Build.value (Build.fuel d) Build.depthLimit .root false)

end CiWorkflow.Yaml
