import CiWorkflow.Json
import CiWorkflow.Layout
import CiWorkflow.Lint
import CiWorkflow.Text.Blank
import CiWorkflow.Yaml.Typed
/-!
# Settings

What can be set: the geometry of layouts, and the runner labels that are known to the checks.
Settings are read from YAML, the two groups of options also from JSON. Everything has a default, and
what is not known does not count.

Main definitions:

- `Settings.ofText`: the settings of a YAML text;
- `Geometry.ofJson`, `LintOptions.ofJson`: options of a JSON value.
-/

namespace CiWorkflow

open Decimal (Binary64)
open Yaml (Build Path)

structure Settings where
  /-- The geometry of layouts. -/
  layout : Geometry Binary64 := Geometry.standard.map fun n : Nat => Binary64.ofInt n
  /-- What the checks are told. -/
  lint : LintOptions := {}
deriving DecidableEq

instance : Inhabited Settings := ⟨{}⟩

/-- The geometry as the machine computes with it. -/
def Settings.geometry (s : Settings) : Geometry Float := s.layout.map Binary64.toFloat

/-! ## Names -/

/-- The numbers of a geometry by name, and how each is set. -/
def Geometry.setters : List (String × (Binary64 → Geometry Binary64 → Geometry Binary64)) :=
  [("node-width", fun x g => { g with nodeWidth := x }),
    ("node-height", fun x g => { g with nodeHeight := x }),
    ("horizontal-gap", fun x g => { g with horizontalGap := x }),
    ("vertical-gap", fun x g => { g with verticalGap := x }),
    ("trigger-band", fun x g => { g with triggerBand := x }),
    ("add-node-size", fun x g => { g with addNodeSize := x })]

/-- What the geometry is called in messages. -/
def Geometry.typeName : String := "LayoutOptions"

/-- What the options of the checks are called in messages. -/
def LintOptions.typeName : String := "LintOptions"

/-- The name of the list of runner labels. -/
def LintOptions.labelsName : String := "extra-runner-labels"

/-! ## From YAML -/

def Geometry.build : Path → Build (Geometry Binary64) :=
  Build.record typeName
    (setters.map fun f => ⟨f.1, fun path g => return f.2 (← Build.float path) g⟩)
    (default : Settings).layout

def LintOptions.build : Path → Build LintOptions :=
  Build.record typeName
    [⟨labelsName, fun path o => return { o with extraRunnerLabels := ← Build.texts path }⟩] {}

namespace Settings

def build : Path → Build Settings :=
  Build.record "Settings"
    [⟨"layout", fun path s => return { s with layout := ← Geometry.build path }⟩,
      ⟨"lint", fun path s => return { s with lint := ← LintOptions.build path }⟩] {}

/-- The settings of a text. A blank text sets nothing. -/
def ofText (text : String) : Except Yaml.Problem Settings :=
  if Text.isBlankText text then .ok {} else (Yaml.Document.ofText text).build (build .root)

end Settings

/-! ## From JSON -/

namespace Json

/-- What a value is found to be. -/
def found : Json → Found
  | .null => .null
  | .bool b => .bool b
  | .int n => .integer n
  | .float x => .float x
  | .string s => .string s
  | .array _ => .sequence
  | .object _ => .mapping

/-- A number; whole numbers will do. -/
def toFloat : Json → Except Mismatch Binary64
  | .int n => .ok (.ofInt n)
  | .float x => .ok x
  | v => .error (.wrongType v.found "f64")

def toText : Json → Except Mismatch String
  | .string s => .ok s
  | v => .error (.wrongType v.found "a string")

def toTexts : Json → Except Mismatch (List String)
  | .array items => items.mapM toText
  | v => .error (.wrongType v.found "a sequence")

/-- A record from its defaults: an object whose members are looked at in the order of their names,
or an array of the fields in their order. -/
def toRecord {σ : Type} (name : String) (fields : List (String × (Json → σ → Except Mismatch σ)))
    (default : σ) : Json → Except Mismatch σ
  | .object members =>
    (members.mergeSort fun a b => a.1 ≤ b.1).foldlM
      (fun record m =>
        match fields.lookup m.1 with
        | some fill => fill m.2 record
        | none => .ok record)
      default
  | .array items => do
    -- fields behind the last item keep their defaults
    let record ← (fields.zip items).foldlM (fun record (f, v) => f.2 v record) default
    if fields.length < items.length then
      .error (.wrongLength items.length "fewer elements in array")
    else .ok record
  | v => .error (.wrongType v.found ("struct " ++ name))

end Json

def Geometry.ofJson : Json → Except Mismatch (Geometry Binary64) :=
  Json.toRecord typeName (setters.map fun f => (f.1, fun v g => do return f.2 (← v.toFloat) g))
    (default : Settings).layout

def LintOptions.ofJson : Json → Except Mismatch LintOptions :=
  Json.toRecord typeName
    [(labelsName, fun v o => do return { o with extraRunnerLabels := ← v.toTexts })] {}

/-- The message of options that do not fit. -/
def optionsMessage (m : Mismatch) : String := m.message Json.style

end CiWorkflow
