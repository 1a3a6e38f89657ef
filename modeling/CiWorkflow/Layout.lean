import CiWorkflow.FreshName
import CiWorkflow.Trigger.Shape
import CiWorkflow.Workflow.Level
/-!
# Layout

The job graph of a workflow as nodes at positions and edges between them. The triggers stand in a
band at the left, the jobs in their columns, and behind the last column a node to which a further
job can be appended.

Main definitions:

- `Geometry`: sizes and distances, over any kind of number;
- `Workflow.nodes`, `Workflow.edges`: the graph;
- `Graph.node?`: the node of an id.
-/

namespace CiWorkflow

/-! ## Geometry -/

/-- Numbers that can be coordinates. -/
class Coordinate (α : Type) extends Add α, Sub α, Mul α, Div α where
  /-- A count as a number. -/
  ofNat : Nat → α

instance : Coordinate Float := ⟨Float.ofNat⟩

/-- Sizes and distances. -/
structure Geometry (α : Type) where
  nodeWidth : α
  nodeHeight : α
  /-- The distance between columns. -/
  horizontalGap : α
  /-- The distance between rows. -/
  verticalGap : α
  /-- The width of the band of triggers. -/
  triggerBand : α
  /-- The size of the node to which a job can be appended. -/
  addNodeSize : α
deriving DecidableEq

namespace Geometry

variable {α β : Type}

def map (f : α → β) (g : Geometry α) : Geometry β :=
  ⟨f g.nodeWidth, f g.nodeHeight, f g.horizontalGap, f g.verticalGap, f g.triggerBand,
    f g.addNodeSize⟩

/-- The geometry that is used where none is given. -/
def standard : Geometry Nat := ⟨200, 80, 80, 60, 280, 40⟩

variable [Coordinate α]

/-- The left edge of a column. -/
def columnX (g : Geometry α) (column : Nat) : α :=
  g.triggerBand + Coordinate.ofNat column * (g.nodeWidth + g.horizontalGap)

/-- The upper edge of a row. -/
def rowY (g : Geometry α) (row : Nat) : α :=
  Coordinate.ofNat row * (g.nodeHeight + g.verticalGap)

/-- The middle of a column with so many rows, and one row if there are none. -/
def centerY (g : Geometry α) (rows : Nat) : α :=
  (g.rowY (max rows 1 - 1) + g.nodeHeight) / Coordinate.ofNat 2

end Geometry

/-! ## Graphs -/

/-- A place in the plane. -/
structure Position (α : Type) where
  /-- To the right. -/
  x : α
  /-- Downwards. -/
  y : α
deriving DecidableEq

/-- What a node shows. -/
inductive NodeData where
  | job (id label runsOn : String) (stepCount : Nat)
  /-- A trigger, or a placeholder for the missing ones. -/
  | trigger (trigger : Option Trigger) (label : String)
  /-- The place of a further job that needs the given ones. -/
  | addJob (needs : List String)
deriving DecidableEq

namespace NodeData

def kind : NodeData → String
  | .job .. => "job"
  | .trigger .. => "trigger"
  | .addJob .. => "addJob"

def isJob : NodeData → Bool
  | .job .. => true
  | _ => false

def isTrigger : NodeData → Bool
  | .trigger .. => true
  | _ => false

/-- Whether this is the place of a further job. -/
def isAddJob : NodeData → Bool
  | .addJob .. => true
  | _ => false

end NodeData

/-- A node at its position. -/
structure FlowNode (α : Type) where
  id : String
  /-- The upper left corner. -/
  position : Position α
  /-- What it shows. -/
  data : NodeData
deriving DecidableEq

/-- An edge between two nodes. -/
structure FlowEdge where
  /-- The node it leaves. -/
  source : String
  /-- The node it enters. -/
  target : String
deriving DecidableEq

def FlowEdge.id (e : FlowEdge) : String := e.source ++ "->" ++ e.target

/-- Nodes and edges. -/
structure Graph (α : Type) where
  nodes : List (FlowNode α)
  edges : List FlowEdge
deriving DecidableEq

/-- The first node of an id. -/
def Graph.node? {α : Type} (g : Graph α) (id : String) : Option (FlowNode α) :=
  g.nodes.find? fun n => n.id == id

/-! ## The graph of a workflow -/

/-- A name with so many colons behind it. -/
def withColons (name : String) (count : Nat) : String :=
  name ++ String.ofList (List.replicate count ':')

namespace Workflow

variable {α : Type} [Coordinate α]

/-- An id that no job has: the given one, with colons behind it if need be. -/
def syntheticId (w : Workflow) (id : String) : String := fresh w.jobs.keys (withColons id)

def triggerId (w : Workflow) (index : Nat) : String :=
  w.syntheticId ("trigger:" ++ toString index)

def addJobId (w : Workflow) : String := w.syntheticId "add-job:"

/-- What the nodes of the triggers show: every trigger, or that there is none. -/
def triggerData (w : Workflow) : List NodeData :=
  if w.triggers.isEmpty then [.trigger none "No triggers configured"]
  else w.triggers.map fun t => .trigger (some t) t.label

/-- The nodes of the triggers, centered on the first column. -/
def triggerNodes (w : Workflow) (g : Geometry α) : List (FlowNode α) :=
  let top := g.centerY (w.levels.headD []).length - g.centerY w.triggers.length
  w.triggerData.mapIdx fun index data =>
    ⟨w.triggerId index, ⟨Coordinate.ofNat 0, top + g.rowY index⟩, data⟩

/-- What the node of a job shows. -/
def jobData (id : String) (j : Job) : NodeData :=
  .job id ((j.name.filter fun name => !name.isEmpty).getD id) j.runsOn.text j.steps.length

/-- The nodes of the jobs in one column. -/
def columnNodes (w : Workflow) (g : Geometry α) (column : Nat) (ids : List String) :
    List (FlowNode α) :=
  (ids.mapIdx fun row id =>
    (w.jobs.get? id).map fun j =>
      FlowNode.mk id ⟨g.columnX column, g.rowY row⟩ (jobData id j)).filterMap id

def jobNodes (w : Workflow) (g : Geometry α) : List (FlowNode α) :=
  (w.levels.mapIdx (w.columnNodes g)).flatten

/-- The node behind the last column, centered on it. -/
def addJobNode (w : Workflow) (g : Geometry α) : FlowNode α :=
  let last := w.levels.getLastD []
  ⟨w.addJobId,
    ⟨g.columnX w.levels.length, g.centerY last.length - g.addNodeSize / Coordinate.ofNat 2⟩,
    .addJob last⟩

def nodes (w : Workflow) (g : Geometry α) : List (FlowNode α) :=
  w.triggerNodes g ++ w.jobNodes g ++ [w.addJobNode g]

/-- The edges from the needs of a job, without repetitions and missing jobs. -/
def needEdges (w : Workflow) (id : String) (j : Job) : List FlowEdge :=
  ((j.needsList.filter w.jobs.contains).eraseDups).map fun need => ⟨need, id⟩

/-- All edges: from needs to jobs, from triggers to the first column, and from the last column to
the place of a further job. -/
def edges (w : Workflow) : List FlowEdge :=
  let columns := w.levels
  let append := w.addJobId
  (w.jobs.entries.flatMap fun e => w.needEdges e.1 e.2) ++
    ((List.range w.triggerData.length).flatMap fun index =>
      let trigger := w.triggerId index
      (columns.headD []).map fun id => ⟨trigger, id⟩) ++
    (columns.getLastD []).map fun id => ⟨id, append⟩

/-- The graph of a workflow. -/
def layout (w : Workflow) (g : Geometry α) : Graph α := ⟨w.nodes g, w.edges⟩

end Workflow

end CiWorkflow
