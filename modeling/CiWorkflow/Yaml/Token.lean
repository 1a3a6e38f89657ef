import CiWorkflow.Yaml.Problem
/-!
# YAML tokens

The smallest pieces of a YAML text that mean something, with the places between which they stand.
-/

namespace CiWorkflow.Yaml

/-- How a scalar is written. -/
inductive ScalarStyle where
  /-- Without any marks. -/
  | plain
  | singleQuoted
  | doubleQuoted
  /-- A block whose line breaks are kept. -/
  | literal
  /-- A block whose line breaks are folded. -/
  | folded
deriving DecidableEq, Inhabited

/-- A tag as it is written, or the text it stands for. -/
structure TagText where
  /-- The characters of the tag. -/
  text : String
  /-- Whether all its escaped octets make up characters. -/
  wellFormed : Bool
deriving DecidableEq, Inhabited

inductive Token where
  | streamStart
  | streamEnd
  /-- A directive for the version of YAML. -/
  | versionDirective (major minor : Nat)
  /-- A directive that declares a tag handle. -/
  | tagDirective (handle : String) (expansion : TagText)
  /-- The marker before a document. -/
  | documentStart
  /-- The marker after a document. -/
  | documentEnd
  | blockSequenceStart
  | blockMappingStart
  | blockEnd
  /-- An opening bracket. -/
  | flowSequenceStart
  /-- A closing bracket. -/
  | flowSequenceEnd
  /-- An opening brace. -/
  | flowMappingStart
  /-- A closing brace. -/
  | flowMappingEnd
  /-- A dash before an entry. -/
  | blockEntry
  /-- A comma between entries. -/
  | flowEntry
  /-- The beginning of a key. -/
  | key
  /-- A colon before a value. -/
  | value
  | reference (name : String)
  | anchor (name : String)
  /-- A tag, by handle and name. -/
  | tag (handle : String) (name : TagText)
  | scalar (text : String) (style : ScalarStyle)
deriving DecidableEq, Inhabited

/-- A token and its place. -/
structure PlacedToken where
  token : Token
  /-- Where it begins. -/
  start : Mark
  /-- Where it ends. -/
  stop : Mark
deriving Inhabited

end CiWorkflow.Yaml
