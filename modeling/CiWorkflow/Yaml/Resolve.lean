import CiWorkflow.Yaml.Cursor
import CiWorkflow.Yaml.Token
/-!
# What scalars mean

A plain scalar means nothing, a truth value, a number or its own text. All other scalars mean their
text, unless a core tag demands a type.

Main definitions:

- `Scalar.Meaning.ofPlain`: the meaning of a plain scalar;
- `Scalar.meaning`: the meaning of a scalar with its tag and style.
-/

namespace CiWorkflow.Yaml.Scalar

open Decimal (Binary64)

/-- The meaning of a scalar. -/
inductive Meaning where
  | null
  | bool (b : Bool)
  /-- A whole number of 64 bits, with or without a sign. -/
  | int (n : Int)
  /-- A whole number of 128 bits. -/
  | wideInt (n : Int)
  | float (x : Binary64)
  | text (s : String)
deriving DecidableEq

/-! ## Plain scalars -/

/-- Whether a text is a spelling of nothing. -/
def isNull (s : String) : Bool := s == "null" || s == "Null" || s == "NULL" || s == "~"

def bool? (s : String) : Option Bool :=
  if s == "true" || s == "True" || s == "TRUE" then some true
  else if s == "false" || s == "False" || s == "FALSE" then some false
  else none

/-- Whether a text is a number with zeros before it, which is no number but a text. -/
def hasLeadingZero (cs : List Char) : Bool :=
  match (Decimal.takeSign cs).2 with
  | '0' :: c :: rest => (c :: rest).all Char.isDigit
  | _ => false

/-- The value of digits of a base, of which there has to be one. -/
def digits? (base : Nat) (cs : List Char) : Option Nat :=
  if cs.isEmpty then none
  else
    cs.foldl (fun n c => n.bind fun n =>
      (hexValue? c).bind fun d => if d < base then some (base * n + d) else none) (some 0)

/-- The size of a whole number after its sign: decimal, or with the mark of another base. -/
def magnitude? (leadingZero : Bool) : List Char → Option Nat
  | '0' :: 'x' :: rest => digits? 16 rest
  | '0' :: 'o' :: rest => digits? 8 rest
  | '0' :: 'b' :: rest => digits? 2 rest
  | cs => if leadingZero then none else digits? 10 cs

/-- A whole number of any size. -/
def whole? (cs : List Char) : Option Int :=
  let (negative, rest) := Decimal.takeSign cs
  (magnitude? (hasLeadingZero cs) rest).map fun n => if negative then -(n : Int) else n

/-- The whole number that a text spells, if it has 128 bits at most. -/
def int? (cs : List Char) : Option Meaning :=
  (whole? cs).bind fun n =>
    if -0x8000000000000000 ≤ n && n < 0x10000000000000000 then some (.int n)
    else if -0x80000000000000000000000000000000 ≤ n &&
        n < 0x100000000000000000000000000000000 then some (.wideInt n)
    else none

/-- The floating-point number that a text spells: infinity with or without a sign, NaN without one,
or a decimal that is not too large. -/
def float? (s : String) : Option Binary64 :=
  if s == ".inf" || s == ".Inf" || s == ".INF" || s == "+.inf" || s == "+.Inf" || s == "+.INF" then
    some (.infinity false)
  else if s == "-.inf" || s == "-.Inf" || s == "-.INF" then some (.infinity true)
  else if s == ".nan" || s == ".NaN" || s == ".NAN" then some .nan
  else (Decimal.ofText? s.toList).filter Binary64.isFinite

/-- The meaning of a plain scalar. -/
def Meaning.ofPlain (s : String) : Meaning :=
  if s.isEmpty || isNull s then .null
  else
    match bool? s, int? s.toList with
    | some b, _ => .bool b
    | none, some m => m
    | none, none =>
      if hasLeadingZero s.toList then .text s
      else
        match float? s with
        | some x => .float x
        | none => .text s

/-! ## Tags -/

/-- The name of a local tag, without its exclamation marks; the tag that is nothing else keeps
it. -/
def localTag? (tag : Option TagText) : Option String :=
  match tag with
  | some ⟨text, true⟩ =>
    match text.toList with
    | ['!'] => some "!"
    | '!' :: rest => some (bare rest)
    | _ => none
  | _ => none
where
  /-- A name without an exclamation mark before it. -/
  bare : List Char → String
    | '!' :: c :: rest => String.ofList (c :: rest)
    | cs => String.ofList cs

/-- The meaning of a text that has to have a certain type. -/
def demand (text : String) (meaning : Option Meaning) (expected : String) :
    Except ValueFault Meaning :=
  match meaning with
  | some m => .ok m
  | none => .error (.mismatch (.wrongValue (.string text) expected))

/-- The meaning of a scalar. Of a tag that is counted already only the value behind it is left. -/
def meaning (tag : Option TagText) (tagCounted : Bool) (text : String) (style : ScalarStyle) :
    Except ValueFault Meaning :=
  let untagged := if style = .plain then Meaning.ofPlain text else .text text
  match tag, tagCounted with
  | some tag, false =>
    if tag.text == "tag:yaml.org,2002:bool" then
      demand text ((bool? text).map .bool) "a boolean"
    else if tag.text == "tag:yaml.org,2002:int" then demand text (int? text.toList) "an integer"
    else if tag.text == "tag:yaml.org,2002:float" then
      demand text ((float? text).map .float) "a float"
    else if tag.text == "tag:yaml.org,2002:null" then
      demand text (if isNull text then some .null else none) "null"
    else if tag.text.toList.head? == some '!' then .ok untagged
    else .ok (.text text)
  | _, _ => .ok untagged

/-- What a scalar of a certain meaning is found to be. -/
def Meaning.found : Meaning → Found
  | .null => .unit
  | .bool b => .bool b
  | .int n => .integer n
  | .wideInt n => .wideInteger n
  | .float x => .float x
  | .text s => .string s

/-- The value that a scalar of a certain meaning denotes. Whole numbers beyond 64 bits denote
none. -/
def Meaning.toValue : Meaning → Except ValueFault Value
  | .null => .ok .null
  | .bool b => .ok (.bool b)
  | .int n => .ok (.number (.int n))
  | .float x => .ok (.number (.float x))
  | .text s => .ok (.string s)
  | .wideInt n => .error (.mismatch (.wrongType (.wideInteger n) "any YAML value"))

end CiWorkflow.Yaml.Scalar
