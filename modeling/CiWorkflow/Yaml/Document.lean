import CiWorkflow.KeyedList
import CiWorkflow.Yaml.Event
import CiWorkflow.Yaml.Resolve
import CiWorkflow.Yaml.Token.Lexer
/-!
# YAML documents

A `Document` is the list of events of a text with its aliases resolved to positions. Data is built
from it by a `Build`, which walks along the events, jumps to the anchor of an alias and back, and
tells the place of the first value that does not fit. The problems of the syntax show only when the
walk gets there.

Main definitions:

- `Document.ofText`: the events of a text;
- `Document.build`: runs a builder on a document;
- `Build.follow`: builds what an alias stands for.
-/

namespace CiWorkflow.Yaml

/-- The events of the first document of a text, in which an alias refers to a position. -/
structure Document where
  events : Array (PlacedEvent Nat)
  /-- Why the events break off. -/
  problem : Option Problem
  /-- Whether another document follows. -/
  more : Bool

/-! ## Anchors -/

/-- The anchors met so far. An anchor gets for its number the count of names before it; where names
are given twice numbers coincide, and the last position of a number counts. -/
structure Anchors where
  /-- The number of every name. -/
  numbers : KeyedList Nat
  /-- The positions of the numbers, the last one first. -/
  positions : List (Nat × Nat)

namespace Anchors

/-- Note the anchor at a position. -/
def add (a : Anchors) (name : String) (position : Nat) : Anchors :=
  ⟨a.numbers.insert name a.numbers.size, (a.numbers.size, position) :: a.positions⟩

def position (a : Anchors) (number : Nat) : Nat :=
  match a.positions.find? (·.1 == number) with
  | some (_, position) => position
  | none => 0

end Anchors

/-- Put positions in place of the numbers of aliases. -/
def Event.resolve (a : Anchors) : Event Nat → Event Nat
  | .reference number => .reference (a.position number)
  | e => e

/-- Number the aliases up to the first one without anchor. -/
def numberAliases (a : Anchors) (position : Nat) (done : List (PlacedEvent Nat)) :
    List (PlacedEvent String) → Anchors × List (PlacedEvent Nat) × Option Problem
  | [] => (a, done.reverse, none)
  | e :: rest =>
    -- an anchor counts from its own node on, so a node may refer to itself
    let a' := match e.anchor with
      | some name => a.add name position
      | none => a
    let keep (event : Event Nat) :=
      numberAliases a' (position + 1) (⟨event, e.mark, e.anchor⟩ :: done) rest
    match e.event with
    | .reference name =>
      match a.numbers.get? name with
      | some number => keep (.reference number)
      | none => (a, done.reverse, some (.unknownAnchor e.mark))
    | .scalar tag text style => keep (.scalar tag text style)
    | .sequenceStart tag => keep (.sequenceStart tag)
    | .sequenceEnd => keep .sequenceEnd
    | .mappingStart tag => keep (.mappingStart tag)
    | .mappingEnd => keep .mappingEnd
    | .absent => keep .absent

namespace Document

/-- The document that a stream holds. -/
def ofStream (s : Stream) : Document :=
  let (anchors, events, unknown) := numberAliases ⟨.empty, []⟩ 0 [] s.events
  { events := (events.map fun e => { e with event := e.event.resolve anchors }).toArray
    problem := unknown <|> s.problem
    more := s.more }

/-- The document of a text. -/
def ofText (text : String) : Document :=
  let (tokens, problem) := Token.ofText text
  ofStream (.ofTokens tokens problem)

end Document

/-! ## Building -/

/-- How far a document has been walked. -/
structure Walk where
  /-- The position of the next event. -/
  position : Nat
  /-- How many aliases have been followed. -/
  jumps : Nat

/-- A computation that builds data from the events of a document. -/
abbrev Build := ReaderT Document (StateT Walk (Except Problem))

namespace Build

/-- The next event and its place. -/
def peek : Build (Event Nat × Mark) := do
  let d ← read
  match d.events[(← get).position]?, d.problem with
  | some e, _ => return (e.event, e.mark)
  | none, some problem => throw problem
  | none, none => throw .noValue

def advance : Build Unit := modify fun w => { w with position := w.position + 1 }

def back : Build Unit := modify fun w => { w with position := w.position - 1 }

/-- The next event and its place, which is passed over. -/
def next : Build (Event Nat × Mark) := do
  let e ← peek
  advance
  return e

/-- Tell the place of a problem with a value that shows in here. -/
def located {α : Type} (mark : Mark) (path : Path) (act : Build α) : Build α :=
  tryCatch act fun problem => throw (problem.locate mark path)

/-- Fail with a fault of the value that is being built. -/
def fail {α : Type} (fault : ValueFault) : Build α := throw (.value fault none)

/-- Do at the anchor of an alias what was to be done with the alias. A document allows for a hundred
jumps for every event. -/
def follow {α : Type} (target : Nat) (act : Build α) : Build α := do
  let w ← get
  if 100 * (← read).events.size < w.jumps + 1 then throw .tooManyAliases
  -- jumps are counted over the whole walk, also within jumps
  set (Walk.mk target (w.jumps + 1))
  let a ← act
  modify fun later => { later with position := w.position }
  return a

/-- A bound for the number of steps of any walk. -/
def fuel (d : Document) : Nat := (100 * d.events.size + 2) * (3 * d.events.size + 8)

/-- How deep collections may be nested. -/
def depthLimit : Nat := 128

end Build

/-- Build data from a whole document, behind which no other may follow. -/
def Document.build {α : Type} (d : Document) (act : Build α) : Except Problem α := do
  let (a, _) ← (act.run d).run ⟨0, 0⟩
  match d.problem with
  | some problem => throw problem
  | none => if d.more then throw .manyDocuments else return a

end CiWorkflow.Yaml
