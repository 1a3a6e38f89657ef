import CiWorkflow.Decimal.Binary64
/-!
# Shortest decimals

The shortest decimal that reads back as a given number: of the decimals with the fewest digits
within the interval that rounds to the number the one nearest to it, a tie going to the even digit.
All comparisons are exact.
-/

namespace CiWorkflow

/-- The decimal `digits · 10 ^ exponent`. -/
structure Decimal where
  /-- The digits as one whole number. -/
  digits : Nat
  /-- The exponent of the last digit. -/
  exponent : Int
deriving DecidableEq

namespace Decimal

def digitChars (d : Decimal) : List Char := Nat.toDigits 10 d.digits

/-- The exponent of the first digit. -/
def leadingExponent (d : Decimal) : Int := d.exponent + d.digitChars.length - 1

/-- Numerator and denominator of the decimal. -/
def ratio (d : Decimal) : Nat × Nat :=
  (d.digits * Nat.pow 10 d.exponent.toNat, Nat.pow 10 (-d.exponent).toNat)

/-- The decimal without zeros at the end, looking at so many of them. -/
def trim (fuel : Nat) (d : Decimal) : Decimal :=
  match fuel with
  | 0 => d
  | fuel + 1 =>
    if d.digits % 10 = 0 && d.digits != 0 then trim fuel ⟨d.digits / 10, d.exponent + 1⟩ else d

/-- A positive number with the ends of the interval that rounds to it, as numerators over one
denominator, and whether the ends belong to it. -/
structure Interval where
  /-- The lower end. -/
  low : Nat
  /-- The number itself. -/
  value : Nat
  /-- The upper end. -/
  high : Nat
  /-- The common denominator. -/
  den : Nat
  /-- Whether the ends round to the number as well. -/
  closed : Bool

namespace Interval

/-- The interval of significand `m` and exponent `q`: half a place to both sides, and a quarter
downwards where the numbers below lie twice as close. -/
def ofParts (m : Nat) (q : Int) : Interval :=
  let scale := (q - 2).toNat
  let quarter := m = Binary64.leadingBit && q != -1074
  { low := (4 * m - if quarter then 1 else 2) <<< scale
    value := (4 * m) <<< scale
    high := (4 * m + 2) <<< scale
    den := 1 <<< (2 - q).toNat
    closed := m % 2 = 0 }

/-- Whether a decimal lies in the interval. -/
def holds (i : Interval) (d : Decimal) : Bool :=
  let (num, den) := d.ratio
  let low := i.low * den
  let high := i.high * den
  let here := num * i.den
  if i.closed then low ≤ here && here ≤ high else low < here && here < high

/-- How far a decimal lies from the number, over the product of the two denominators. -/
def distance (i : Interval) (d : Decimal) : Nat :=
  let (num, den) := d.ratio
  let a := num * i.den
  let b := i.value * den
  (a - b) + (b - a)

/-- The exponent of the first decimal digit of the number. -/
def leadingExponent (i : Interval) : Int :=
  if i.den ≤ i.value then ((Nat.toDigits 10 (i.value / i.den)).length : Int) - 1
  else
    let places := (Nat.toDigits 10 (i.den / i.value)).length
    if i.den ≤ i.value * Nat.pow 10 (places - 1) then -((places : Int) - 1) else -(places : Int)

/-- The decimals next to the number on the grid of the given exponent. -/
def neighbours (i : Interval) (exponent : Int) : Decimal × Decimal :=
  let below := i.value * Nat.pow 10 (-exponent).toNat / (i.den * Nat.pow 10 exponent.toNat)
  (⟨below, exponent⟩, ⟨below + 1, exponent⟩)

/-- Of two neighbours on a grid the one to choose, if any lies in the interval. -/
def choose (i : Interval) (below above : Decimal) : Option Decimal :=
  if i.holds below then
    if i.holds above then
      let a := i.distance below
      let b := i.distance above
      -- both read back, so the nearer one wins, and the even one of two equally near
      if a < b then some below
      else if b < a then some above
      else if below.digits % 2 = 0 then some below else some above
    else some below
  else if i.holds above then some above
  else none

/-- The choice with so many digits. -/
def withDigits (i : Interval) (count : Nat) : Option Decimal :=
  let (below, above) := i.neighbours (i.leadingExponent - count + 1)
  i.choose below above

end Interval

/-- The shortest decimal that reads back as a finite number other than zero, sign apart. Seventeen
digits are always enough. -/
def shortest (x : Binary64) : Decimal :=
  let (m, q) := x.parts
  let i := Interval.ofParts m q
  match (List.range 17).findSome? fun n => i.withDigits (n + 1) with
  | some d => d.trim 17
  | none => (i.neighbours (i.leadingExponent - 16)).1

end CiWorkflow.Decimal
