import CiWorkflow.Decimal.Style
/-!
# JSON

JSON values and their texts: in one line, or with two columns of indentation. Names of members keep
their order. Characters other than quotes, backslashes and controls are written as they are.
-/

namespace CiWorkflow

open Decimal (Binary64)

inductive Json where
  | null
  | bool (b : Bool)
  | int (n : Int)
  | float (x : Binary64)
  | string (s : String)
  | array (items : List Json)
  | object (members : List (String × Json))
deriving Inhabited

namespace Json

/-! ## Scalars -/

/-- Floating-point numbers are written by position between the fifth place behind the point and the
sixteenth before it, and with a signed exponent elsewhere. -/
def style : Decimal.Style := .moderate "+"

/-- The text of a floating-point number; what is not finite is nothing. -/
def floatText (x : Binary64) : String := if x.isFinite then style.text x else "null"

/-- A character of a text. -/
def escaped (c : Char) : List Char :=
  match c with
  | '"' => ['\\', '"']
  | '\\' => ['\\', '\\']
  | '\x08' => ['\\', 'b']
  | '\x0c' => ['\\', 'f']
  | '\n' => ['\\', 'n']
  | '\r' => ['\\', 'r']
  | '\t' => ['\\', 't']
  | c =>
    if c.toNat < 0x20 then
      let digits := Nat.toDigits 16 c.toNat
      ['\\', 'u'] ++ List.replicate (4 - digits.length) '0' ++ digits
    else [c]

/-- A text between double quotes. -/
def quoted (s : String) : String := String.ofList ('"' :: s.toList.flatMap escaped ++ ['"'])

/-! ## Texts -/

/-- Pieces with commas between them. -/
def joined (separator : String) (pieces : List String) : String := separator.intercalate pieces

/-- A break and the indentation of a line. -/
def newLine (indent : Nat) : String := "\n" ++ String.ofList (List.replicate (2 * indent) ' ')

mutual

/-- The text of a value in one line. -/
def compact : Json → String
  | .null => "null"
  | .bool b => toString b
  | .int n => toString n
  | .float x => floatText x
  | .string s => quoted s
  | .array items => "[" ++ joined "," (compactItems items) ++ "]"
  | .object members => "\x7b" ++ joined "," (compactMembers members) ++ "\x7d"

def compactItems : List Json → List String
  | [] => []
  | v :: rest => compact v :: compactItems rest

def compactMembers : List (String × Json) → List String
  | [] => []
  | (name, v) :: rest => (quoted name ++ ":" ++ compact v) :: compactMembers rest

end

mutual

/-- The text of a value in lines, so many steps indented. -/
def prettyAt (indent : Nat) : Json → String
  | .null => "null"
  | .bool b => toString b
  | .int n => toString n
  | .float x => floatText x
  | .string s => quoted s
  | .array [] => "[]"
  | .array items =>
    "[" ++ newLine (indent + 1) ++
      joined ("," ++ newLine (indent + 1)) (prettyItems (indent + 1) items) ++ newLine indent ++ "]"
  | .object [] => "\x7b\x7d"
  | .object members =>
    "\x7b" ++ newLine (indent + 1) ++
      joined ("," ++ newLine (indent + 1)) (prettyMembers (indent + 1) members) ++
      newLine indent ++ "\x7d"

def prettyItems (indent : Nat) : List Json → List String
  | [] => []
  | v :: rest => prettyAt indent v :: prettyItems indent rest

def prettyMembers (indent : Nat) : List (String × Json) → List String
  | [] => []
  | (name, v) :: rest => (quoted name ++ ": " ++ prettyAt indent v) :: prettyMembers indent rest

end

/-- The text of a value in lines. -/
def pretty (v : Json) : String := prettyAt 0 v

end Json

end CiWorkflow
