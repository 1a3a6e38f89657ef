import CiWorkflow.Decimal.Shortest
/-!
# Texts of numbers

A `Style` says how a format writes binary floating-point numbers by their shortest digits: up to
which size by position, and how the exponent of all others looks. Reading goes by one grammar.
-/

namespace CiWorkflow.Decimal

/-! ## Writing -/

/-- How a format writes a finite number. -/
structure Style where
  /-- Exponents of the first digit that are written by position. -/
  positional : Int → Bool
  /-- The sign before an exponent that is not negative. -/
  exponentPlus : String

/-- Digits with a point after the first `whole` of them, filled up with zeros, and at least one
digit on both sides. -/
def pointed (digits : List Char) (whole : Int) : List Char :=
  if whole ≤ 0 then
    ['0', '.'] ++ List.replicate (-whole).toNat '0' ++ digits
  else
    let n := whole.toNat
    if digits.length ≤ n then
      digits ++ List.replicate (n - digits.length) '0' ++ ['.', '0']
    else digits.take n ++ '.' :: digits.drop n

/-- The first digit, and after a point all further ones. -/
def normalised : List Char → List Char
  | first :: second :: rest => first :: '.' :: second :: rest
  | digits => digits

namespace Style

/-- The text of a decimal. -/
def decimal (s : Style) (d : Decimal) : String :=
  let e := d.leadingExponent
  if s.positional e then String.ofList (pointed d.digitChars (e + 1))
  else
    String.ofList (normalised d.digitChars) ++ "e" ++ (if e < 0 then "" else s.exponentPlus) ++
      toString e

def text (s : Style) (x : Binary64) : String :=
  (if x.isNegative then "-" else "") ++ if x.isZero then "0.0" else s.decimal (shortest x)

/-- Every number by position. -/
def plain : Style := ⟨fun _ => true, ""⟩

/-- By position from the fifth place behind the point to sixteen places before it. -/
def moderate (exponentPlus : String) : Style :=
  ⟨fun e => -5 ≤ e && e ≤ 15, exponentPlus⟩

end Style

/-! ## Reading -/

def digitsValue (cs : List Char) : Nat :=
  cs.foldl (fun n c => 10 * n + (c.toNat - '0'.toNat)) 0

/-- A sign at the beginning, minus as `true`, and the rest. -/
def takeSign : List Char → Bool × List Char
  | '-' :: rest => (true, rest)
  | '+' :: rest => (false, rest)
  | cs => (false, cs)

/-- The exponent after the digits of a decimal: nothing, or `e` with a whole number. -/
def exponentPart? : List Char → Option Int
  | [] => some 0
  | c :: rest =>
    if c == 'e' || c == 'E' then
      let (negative, digits) := takeSign rest
      if digits.isEmpty || !digits.all Char.isDigit then none
      else some (if negative then -(digitsValue digits : Int) else digitsValue digits)
    else none

/-- The number nearest to a decimal text: a sign, digits with at most one point among or beside
them, and an exponent, where only the digits are required. -/
def ofText? (cs : List Char) : Option Binary64 :=
  let (negative, body) := takeSign cs
  let whole := body.takeWhile Char.isDigit
  let afterWhole := body.dropWhile Char.isDigit
  let (fraction, rest) :=
    match afterWhole with
    | '.' :: r => (r.takeWhile Char.isDigit, r.dropWhile Char.isDigit)
    | r => ([], r)
  if whole.isEmpty && fraction.isEmpty then none
  else
    (exponentPart? rest).map fun e =>
      Binary64.ofDecimal negative (digitsValue (whole ++ fraction)) (e - fraction.length)

end CiWorkflow.Decimal
