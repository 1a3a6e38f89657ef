import CiWorkflow.Yaml.Document
/-!
# Typed data of documents

How data of a known type is built from a document: texts, numbers, lists of texts, and records with
named fields. Tags do not count where the type is known, and an empty plain scalar is an empty list
or a record of defaults.

Main definitions:

- `Build.text`, `Build.float`, `Build.texts`: data without fields;
- `Build.record`: a record, field by field.
-/

namespace CiWorkflow.Yaml.Build

open Decimal (Binary64)

/-- Do something with the next event, or with what the alias stands for that it is. -/
def entering {α : Type} (path : Path) (act : Event Nat → Path → Build α) : Build α := do
  let (event, mark) ← next
  located mark path do
    match event with
    | .reference target =>
      follow target do
        let (event, mark) ← next
        located mark (.reference path) (act event (.reference path))
    | _ => act event path

/-- Fail because of what an event is found to be. -/
def unexpected {α : Type} (expected : String) : Event Nat → Build α
  | .scalar tag text style =>
    match Scalar.meaning tag false text style with
    | .ok m => fail (.mismatch (.wrongType m.found expected))
    | .error fault => fail fault
  | .sequenceStart _ => fail (.mismatch (.wrongType .sequence expected))
  | .mappingStart _ => fail (.mismatch (.wrongType .mapping expected))
  | _ => fail (.mismatch (.wrongType .unit expected))

/-- Whether an event is an empty plain scalar, or there is no document. -/
def isNothing : Event Nat → Bool
  | .scalar _ text .plain => text.isEmpty
  | .absent => true
  | _ => false

def text (expected : String) (path : Path) : Build String :=
  entering path fun event _ =>
    match event with
    | .scalar _ text _ => return text
    | e => unexpected expected e

/-- Build a number from a plain scalar, or a literal block with the tag for it. -/
def float (path : Path) : Build Binary64 :=
  entering path fun event _ =>
    match event with
    | .scalar tag text style =>
      let allowed := style = .plain ||
        (style = .literal && tag.any fun t => t.text == "tag:yaml.org,2002:float")
      match if allowed then Scalar.float? text else none with
      | some x => return x
      | none => unexpected "f64" event
    | e => unexpected "f64" e

/-- Build texts up to the end of a sequence, after those given, the last one first. -/
def textItems (fuel : Nat) (path : Path) (done : List String) : Build (List String) := do
  match fuel with
  | 0 => throw .noValue
  | fuel + 1 =>
    match ← peek with
    | (.sequenceEnd, _) =>
      advance
      return done.reverse
    | _ =>
      let s ← text "a string" (.item path done.length)
      textItems fuel path (s :: done)

def texts (path : Path) : Build (List String) :=
  entering path fun event path => do
    match event with
    | .sequenceStart _ => textItems ((← read).events.size + 1) path []
    | e => if isNothing e then return [] else unexpected "a sequence" e

/-- Pass over the next value, whatever it is, inside so many collections. -/
def skipValue (fuel depth : Nat) : Build Unit := do
  match fuel with
  | 0 => throw .noValue
  | fuel + 1 =>
    let (event, _) ← next
    let depth := match event with
      | .sequenceStart _ | .mappingStart _ => depth + 1
      | .sequenceEnd | .mappingEnd => depth - 1
      | _ => depth
    if depth = 0 then return else skipValue fuel depth

/-- A field of a record: its name, and how its value is built into the record. -/
structure Field (σ : Type) where
  name : String
  /-- Build the value and put it in. -/
  fill : Path → σ → Build σ

/-- Build fields up to the end of a mapping. A known field may not come twice; others do not
count. -/
def fields {σ : Type} (fuel : Nat) (known : List (Field σ)) (path : Path) (seen : List String)
    (record : σ) : Build σ := do
  match fuel with
  | 0 => throw .noValue
  | fuel + 1 =>
    let (event, _) ← peek
    match event with
    | .mappingEnd =>
      advance
      return record
    | _ =>
      let place := match event with
        | .scalar _ text _ => Path.field path text
        | _ => .unnamed path
      let key ← text "field identifier" path
      match known.find? (·.name == key) with
      | some f =>
        if seen.contains key then fail (.mismatch (.duplicateField key))
        let record ← f.fill place record
        fields fuel known path (key :: seen) record
      | none =>
        skipValue ((← read).events.size + 1) 0
        fields fuel known path seen record

/-- Build a record from its defaults. -/
def record {σ : Type} (name : String) (known : List (Field σ)) (default : σ) (path : Path) :
    Build σ :=
  entering path fun event path => do
    match event with
    | .mappingStart _ => fields ((← read).events.size + 1) known path [] default
    | e => if isNothing e then return default else unexpected ("struct " ++ name) e

end CiWorkflow.Yaml.Build
