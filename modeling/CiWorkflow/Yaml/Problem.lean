import CiWorkflow.Mismatch
import CiWorkflow.Yaml.Value
/-!
# Problems of YAML texts

Why a text cannot be read. A `Fault` is a cause in the syntax, an `Activity` what was being read
when it showed, and a `Problem` says where. Problems with the values of a well-formed document carry
the path of the value instead of an activity.

Main definitions:

- `Problem.message`: the text of a problem, with its place;
- `Problem.location?`: line and column of a problem, counted from one.
-/

namespace CiWorkflow.Yaml

/-! ## Places -/

/-- A place in a text, counted from zero: characters from the beginning, lines, and characters in
the line. -/
structure Mark where
  /-- Characters before it. -/
  index : Nat
  /-- Lines before its line. -/
  line : Nat
  /-- Characters before it in its line. -/
  column : Nat
deriving DecidableEq, Inhabited

namespace Mark

def start : Mark := ⟨0, 0, 0⟩

/-- Whether this is the first place of the first line. -/
def isStart (m : Mark) : Bool := m.line == 0 && m.column == 0

/-- A place in words, counted from one. -/
def text (m : Mark) : String :=
  "line " ++ toString (m.line + 1) ++ " column " ++ toString (m.column + 1)

/-- The place after a message; the beginning of the text is not told. -/
def suffix (m : Mark) : String := if m.isStart then "" else " at " ++ m.text

/-- Whether two places lie in the same line and column. -/
def sameSpot (a b : Mark) : Bool := a.line == b.line && a.column == b.column

end Mark

/-! ## Syntax -/

/-- What is wrong with the syntax. -/
inductive Fault where
  /-- A character that begins nothing. -/
  | noTokenStart
  /-- A key without its colon. -/
  | missingColon
  /-- An entry of a sequence where none may stand. -/
  | entryNotAllowed
  /-- A marked key where none may stand. -/
  | keyNotAllowed
  /-- A value where none may stand. -/
  | valueNotAllowed
  /-- A colon within a plain scalar of a flow collection. -/
  | strayColon
  /-- A tab in place of indentation before the rest of a plain scalar. -/
  | tabInPlain
  /-- A document marker inside quotes. -/
  | markerInQuotes
  /-- Quotes that are never closed. -/
  | unclosedQuotes
  /-- A backslash before a character that has no meaning there. -/
  | unknownEscape
  /-- A code point with a character that is no hexadecimal digit. -/
  | badHexDigit
  /-- A number that is no code point. -/
  | badCodePoint
  /-- A block scalar that wants no indentation. -/
  | zeroIndentation
  /-- Text in a line that has to end. -/
  | trailingText
  /-- A tab in the indentation of a block scalar. -/
  | tabInBlock
  /-- An anchor or alias without a name, or one that does not end. -/
  | badAnchorName
  /-- A verbatim tag that is not closed. -/
  | unclosedTag
  /-- A tag that does not end. -/
  | tagNotEnded
  /-- A tag handle without an exclamation mark. -/
  | missingBang
  /-- A tag without a name. -/
  | missingTagName
  /-- A percent sign without two hexadecimal digits. -/
  | badOctet
  /-- An octet that begins no character. -/
  | badFirstOctet
  /-- An octet that continues no character. -/
  | badNextOctet
  /-- A directive of unknown name. -/
  | unknownDirective
  /-- A directive without name. -/
  | missingDirectiveName
  /-- A directive name that does not end. -/
  | badDirectiveName
  /-- A version without its point. -/
  | missingVersionPoint
  /-- A version number of too many digits. -/
  | longVersion
  /-- A missing version number. -/
  | missingVersion
  /-- A tag directive without blank after the handle. -/
  | missingBlank
  /-- A tag directive that does not end. -/
  | tagDirectiveNotEnded
  /-- A second version directive. -/
  | secondVersion
  /-- A version other than 1.1 and 1.2. -/
  | unsupportedVersion
  /-- A tag handle declared twice. -/
  | secondHandle
  /-- A document that does not begin with its marker. -/
  | missingDocumentStart
  /-- A tag handle that is not declared. -/
  | undefinedHandle
  /-- No node where one is wanted. -/
  | missingNode
  /-- Neither another entry of a block sequence nor its end. -/
  | missingEntry
  /-- Neither another key of a block mapping nor its end. -/
  | missingKey
  /-- Neither a comma nor the end of a flow sequence. -/
  | missingComma
  /-- Neither a comma nor the end of a flow mapping. -/
  | missingMappingComma
deriving DecidableEq

def Fault.text : Fault → String
  | .noTokenStart => "found character that cannot start any token"
  | .missingColon => "could not find expected ':'"
  | .entryNotAllowed => "block sequence entries are not allowed in this context"
  | .keyNotAllowed => "mapping keys are not allowed in this context"
  | .valueNotAllowed => "mapping values are not allowed in this context"
  | .strayColon => "found unexpected ':'"
  | .tabInPlain => "found a tab character that violates indentation"
  | .markerInQuotes => "found unexpected document indicator"
  | .unclosedQuotes => "found unexpected end of stream"
  | .unknownEscape => "found unknown escape character"
  | .badHexDigit => "did not find expected hexadecimal number"
  | .badCodePoint => "found invalid Unicode character escape code"
  | .zeroIndentation => "found an indentation indicator equal to 0"
  | .trailingText => "did not find expected comment or line break"
  | .tabInBlock => "found a tab character where an indentation space is expected"
  | .badAnchorName => "did not find expected alphabetic or numeric character"
  | .unclosedTag => "did not find the expected '>'"
  | .tagNotEnded => "did not find expected whitespace or line break"
  | .missingBang => "did not find expected '!'"
  | .missingTagName => "did not find expected tag URI"
  | .badOctet => "did not find URI escaped octet"
  | .badFirstOctet => "found an incorrect leading UTF-8 octet"
  | .badNextOctet => "found an incorrect trailing UTF-8 octet"
  | .unknownDirective => "found unknown directive name"
  | .missingDirectiveName => "could not find expected directive name"
  | .badDirectiveName => "found unexpected non-alphabetical character"
  | .missingVersionPoint => "did not find expected digit or '.' character"
  | .longVersion => "found extremely long version number"
  | .missingVersion => "did not find expected version number"
  | .missingBlank => "did not find expected whitespace"
  | .tagDirectiveNotEnded => "did not find expected whitespace or line break"
  | .secondVersion => "found duplicate %YAML directive"
  | .unsupportedVersion => "found incompatible YAML document"
  | .secondHandle => "found duplicate %TAG directive"
  | .missingDocumentStart => "did not find expected <document start>"
  | .undefinedHandle => "found undefined tag handle"
  | .missingNode => "did not find expected node content"
  | .missingEntry => "did not find expected '-' indicator"
  | .missingKey => "did not find expected key"
  | .missingComma => "did not find expected ',' or ']'"
  | .missingMappingComma => "did not find expected ',' or '\x7d'"

/-- What was being read when a fault showed. -/
inductive Activity where
  | token
  /-- A key without mark. -/
  | simpleKey
  | plainScalar
  /-- The lines of a quoted scalar. -/
  | quotedScalar
  /-- An escape in a quoted scalar. -/
  | quotedEscape
  | blockScalar
  | anchor
  | reference
  | tag
  | tagName
  | directive
  | versionDirective
  | tagDirective
  | tagDirectiveHandle
  /-- The closing mark of the handle in a tag directive. -/
  | tagDirectiveHandleEnd
  | tagDirectiveName
  | node
  /-- A node outside of flow collections. -/
  | blockNode
  /-- A node within a flow collection. -/
  | flowNode
  | blockSequence
  | blockMapping
  | flowSequence
  | flowMapping
deriving DecidableEq

def Activity.text : Activity → String
  | .token => "while scanning for the next token"
  | .simpleKey => "while scanning a simple key"
  | .plainScalar => "while scanning a plain scalar"
  | .quotedScalar => "while scanning a quoted scalar"
  | .quotedEscape => "while parsing a quoted scalar"
  | .blockScalar => "while scanning a block scalar"
  | .anchor => "while scanning an anchor"
  | .reference => "while scanning an alias"
  | .tag => "while scanning a tag"
  | .tagName => "while parsing a tag"
  | .directive => "while scanning a directive"
  | .versionDirective => "while scanning a %YAML directive"
  | .tagDirective => "while scanning a %TAG directive"
  | .tagDirectiveHandle => "while scanning a tag directive"
  | .tagDirectiveHandleEnd => "while parsing a tag directive"
  | .tagDirectiveName => "while parsing a %TAG directive"
  | .node => "while parsing a node"
  | .blockNode => "while parsing a block node"
  | .flowNode => "while parsing a flow node"
  | .blockSequence => "while parsing a block collection"
  | .blockMapping => "while parsing a block mapping"
  | .flowSequence => "while parsing a flow sequence"
  | .flowMapping => "while parsing a flow mapping"

/-! ## Values -/

/-- What is wrong with a value of a well-formed document. -/
inductive ValueFault where
  /-- A key that the mapping has already; the first one is told. -/
  | duplicateKey (key : Value)
  /-- A value that does not fit. -/
  | mismatch (m : Mismatch)
deriving DecidableEq

/-- A fault of a value in words, in which floating-point numbers are written by position. -/
def ValueFault.text : ValueFault → String
  | .duplicateKey .null => "duplicate entry with null key"
  | .duplicateKey (.bool b) => "duplicate entry with key `" ++ toString b ++ "`"
  | .duplicateKey (.number n) => "duplicate entry with key " ++ n.text
  | .duplicateKey (.string s) => "duplicate entry with key " ++ Text.quoted s
  | .duplicateKey _ => "duplicate entry in YAML map"
  | .mismatch m => m.message .plain

/-- The way from the root of a document to a value. -/
inductive Path where
  | root
  /-- An item of a sequence. -/
  | item (parent : Path) (index : Nat)
  /-- The value of a scalar key. -/
  | field (parent : Path) (key : String)
  /-- What an alias stands for. -/
  | reference (parent : Path)
  /-- The value of a key that is a collection or an alias. -/
  | unnamed (parent : Path)
deriving DecidableEq

/-- A path as text; only the root itself has an empty beginning. -/
def Path.text : Path → String
  | .root => "."
  | .item parent index => parent.text ++ "[" ++ toString index ++ "]"
  | .field .root key => key
  | .field parent key => parent.text ++ "." ++ key
  | .reference parent => parent.text
  | .unnamed .root => "?"
  | .unnamed parent => parent.text ++ ".?"

/-! ## Problems -/

/-- Why a text cannot be read as the value that is wanted. -/
inductive Problem where
  /-- A control character, so many bytes behind the beginning. -/
  | control (offset : Nat)
  /-- A fault in the syntax, and what was being read since when. -/
  | malformed (fault : Fault) (at_ : Mark) (during : Option (Activity × Mark))
  /-- An alias before its anchor. -/
  | unknownAnchor (at_ : Mark)
  /-- Collections nested too deep. -/
  | tooDeep (at_ : Mark)
  /-- Aliases followed too often. -/
  | tooManyAliases
  /-- A second document. -/
  | manyDocuments
  /-- A document without a value. -/
  | noValue
  /-- A value that does not fit, where its place is known. -/
  | value (fault : ValueFault) (place : Option (Mark × Path))
deriving DecidableEq

namespace Problem

def message : Problem → String
  | .control offset =>
    "control characters are not allowed" ++
      if offset = 0 then "" else " at position " ++ toString offset
  | .malformed fault at_ during =>
    fault.text ++ at_.suffix ++
      match during with
      | none => ""
      | some (activity, since) =>
        ", " ++ activity.text ++ if since.sameSpot at_ then "" else since.suffix
  | .unknownAnchor at_ => "unknown anchor" ++ at_.suffix
  | .tooDeep at_ => "recursion limit exceeded" ++ at_.suffix
  | .tooManyAliases => "repetition limit exceeded"
  | .manyDocuments =>
    "deserializing from YAML containing more than one document is not supported"
  | .noValue => "EOF while parsing a value"
  | .value fault none => fault.text
  | .value fault (some (at_, path)) =>
    let path := path.text
    (if path = "." then fault.text else path ++ ": " ++ fault.text) ++ at_.suffix

/-- Line and column of a problem, counted from one. -/
def location? : Problem → Option (Nat × Nat)
  | .control _ => some (1, 1)
  | .malformed _ at_ _ | .unknownAnchor at_ | .tooDeep at_ | .value _ (some (at_, _)) =>
    some (at_.line + 1, at_.column + 1)
  | .tooManyAliases | .manyDocuments | .noValue | .value _ none => none

/-- Tell the place of a problem with a value, unless it is told already. -/
def locate (at_ : Mark) (path : Path) : Problem → Problem
  | .value fault none => .value fault (some (at_, path))
  | p => p

end Problem

end CiWorkflow.Yaml
