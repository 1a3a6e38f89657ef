import CiWorkflow.Decimal.Style
import CiWorkflow.Text.Quoted
/-!
# Mismatches

What is said when data has another type than the one that is wanted: what was found, and what had
been expected in its place. The words are the same for every data format; only the texts of
floating-point numbers are those of the format.
-/

namespace CiWorkflow

/-- What was found where something else had been expected. -/
inductive Found where
  /-- Nothing, in a format whose nothing has no name. -/
  | unit
  /-- Nothing, in a format that calls it null. -/
  | null
  | bool (b : Bool)
  | integer (n : Int)
  /-- A whole number beyond 64 bits. -/
  | wideInteger (n : Int)
  | float (x : Decimal.Binary64)
  | string (s : String)
  | sequence
  | mapping
deriving DecidableEq

/-- The text of a floating-point number, which need not be finite. -/
def Found.floatText (style : Decimal.Style) (x : Decimal.Binary64) : String :=
  if x.isNaN then "NaN"
  else if x.isFinite then style.text x
  else if x.isNegative then "-inf" else "inf"

def Found.text (style : Decimal.Style) : Found → String
  | .unit => "unit value"
  | .null => "null"
  | .bool b => "boolean `" ++ toString b ++ "`"
  | .integer n => "integer `" ++ toString n ++ "`"
  | .wideInteger n => "integer `" ++ toString n ++ "` as " ++ if n < 0 then "i128" else "u128"
  | .float x => "floating point `" ++ floatText style x ++ "`"
  | .string s => "string " ++ Text.quoted s
  | .sequence => "sequence"
  | .mapping => "map"

/-- A misfit between data and what is wanted of it. -/
inductive Mismatch where
  /-- The data has another type. -/
  | wrongType (found : Found) (expected : String)
  /-- The data has the right type and does not mean anything. -/
  | wrongValue (found : Found) (expected : String)
  /-- There are more items than fields. -/
  | wrongLength (count : Nat) (expected : String)
  /-- A field is given twice. -/
  | duplicateField (name : String)
deriving DecidableEq

def Mismatch.message (style : Decimal.Style) : Mismatch → String
  | .wrongType found expected => "invalid type: " ++ found.text style ++ ", expected " ++ expected
  | .wrongValue found expected => "invalid value: " ++ found.text style ++ ", expected " ++ expected
  | .wrongLength count expected => "invalid length " ++ toString count ++ ", expected " ++ expected
  | .duplicateField name => "duplicate field `" ++ name ++ "`"

end CiWorkflow
