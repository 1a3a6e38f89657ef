import CiWorkflow.Json
import CiWorkflow.Layout
/-!
# Graphs as JSON

Nodes and edges as JSON objects. The configuration of a trigger may hold any YAML value, of which
not all have a JSON form: the keys of an object are texts, numbers or truth values.
-/

namespace CiWorkflow

open Decimal (Binary64)
open Yaml (Value Number)

/-- Why a value has no JSON form. -/
inductive JsonFault where
  /-- A key is nothing, a collection, or has a tag. -/
  | keyNotText
  /-- A key is infinite or no number. -/
  | keyNotFinite
deriving DecidableEq

def JsonFault.text : JsonFault → String
  | .keyNotText => "key must be a string"
  | .keyNotFinite => "float key must be finite (got NaN or +/-inf)"

namespace Json

def ofNumber : Number → Json
  | .int n => .int n
  | .float x => .float x

/-- The text of a key. -/
def ofKey : Value → Except JsonFault String
  | .string s => .ok s
  | .bool b => .ok (toString b)
  | .number (.int n) => .ok (toString n)
  | .number (.float x) => if x.isFinite then .ok (style.text x) else .error .keyNotFinite
  | _ => .error .keyNotText

mutual

/-- The JSON form of a value. A tag becomes the only member of an object. -/
def ofValue : Value → Except JsonFault Json
  | .null => .ok .null
  | .bool b => .ok (.bool b)
  | .number n => .ok (ofNumber n)
  | .string s => .ok (.string s)
  | .sequence items => (ofItems items).map .array
  | .mapping entries => (ofPairs entries).map .object
  | .tagged tag v => (ofValue v).map fun j => .object [("!" ++ tag, j)]

def ofItems : List Value → Except JsonFault (List Json)
  | [] => .ok []
  | v :: rest => do
    let j ← ofValue v
    return j :: (← ofItems rest)

def ofPairs : List (Value × Value) → Except JsonFault (List (String × Json))
  | [] => .ok []
  | (k, v) :: rest => do
    let name ← ofKey k
    let j ← ofValue v
    return (name, j) :: (← ofPairs rest)

end

end Json

def Trigger.toJson (t : Trigger) : Except JsonFault Json :=
  (Json.ofValue (ValueMap.toValue t.config)).map fun config =>
    .object [("event", .string t.event), ("config", config)]

def NodeData.toJson : NodeData → Except JsonFault Json
  | .job id label runsOn stepCount =>
    .ok (.object [("jobId", .string id), ("label", .string label), ("runsOn", .string runsOn),
      ("stepCount", .int stepCount)])
  | .trigger none label => .ok (.object [("trigger", .null), ("label", .string label)])
  | .trigger (some t) label =>
    t.toJson.map fun j => .object [("trigger", j), ("label", .string label)]
  | .addJob needs => .ok (.object [("needs", .array (needs.map .string))])

def Json.coordinate (x : Float) : Json := .float (.ofFloat x)

def FlowNode.toJson (n : FlowNode Float) : Except JsonFault Json :=
  n.data.toJson.map fun data =>
    .object [("id", .string n.id),
      ("position", .object [("x", .coordinate n.position.x), ("y", .coordinate n.position.y)]),
      ("type", .string n.data.kind), ("data", data)]

def FlowEdge.toJson (e : FlowEdge) : Json :=
  .object [("id", .string e.id), ("source", .string e.source), ("target", .string e.target)]

def Graph.toJson (g : Graph Float) : Except JsonFault Json :=
  (g.nodes.mapM FlowNode.toJson).map fun nodes =>
    .object [("nodes", .array nodes), ("edges", .array (g.edges.map FlowEdge.toJson))]

end CiWorkflow
