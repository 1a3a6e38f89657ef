import CiWorkflow.Text.Blank
import CiWorkflow.Text.Lowercase
import CiWorkflow.Workflow.Decode
import CiWorkflow.Workflow.Encode
import CiWorkflow.Yaml.Read
import CiWorkflow.Yaml.Write
/-!
# Workflows as texts

Workflows are read from YAML texts and written as canonical YAML texts.

Main definitions:

- `Workflow.ofText`: a model in any case, and the problems;
- `Workflow.toText`: the canonical text;
- `Workflow.reloadMessages`: what is said when the written text is read again;
- `Workflow.fileName`: the name under which a workflow is saved.
-/

namespace CiWorkflow

open Yaml (Value)

def Reading.isOk (r : Reading) : Bool := r.problems.isEmpty

def Reading.messages (r : Reading) : List String := r.problems.map ReadProblem.message

namespace Workflow

/-- What comes of a text. -/
def ofText (text : String) : Reading :=
  match Value.ofText text with
  | .ok v => ofValue v
  | .error problem => .failed (.malformed problem)

/-- The canonical text of a workflow. -/
def toText (w : Workflow) : Except Yaml.WriteFault String := w.toNode.toText

/-- The message of a workflow that cannot be written. -/
def writeMessage (fault : Yaml.WriteFault) : String :=
  "Failed to serialize workflow: " ++ fault.text

/-- The messages when a workflow is written and read again. -/
def reloadMessages (w : Workflow) : List String :=
  match w.toText with
  | .ok text => (ofText text).messages
  | .error fault => [writeMessage fault]

/-- The words of the name in lower case, joined by hyphens, or `workflow` if there are none. -/
def fileName (w : Workflow) : String :=
  let stem := Text.lowercase ("-".intercalate (Text.words (w.name.getD "")))
  (if stem.isEmpty then "workflow" else stem) ++ ".yml"

end Workflow

end CiWorkflow
