/-!
# Binary floating-point numbers

A number of the 64-bit binary format, kept as its bits so that numbers can be told apart and
reasoned about. There is one NaN only.

Main definitions:

- `Binary64.ofRatio`: the number nearest to a fraction, a tie going to the even significand;
- `Binary64.ofDecimal`: the number nearest to a decimal;
- `Binary64.parts`: significand and exponent of a finite number.
-/

namespace CiWorkflow.Decimal

/-- A number of the 64-bit binary floating-point format. -/
structure Binary64 where
  /-- Sign, exponent and fraction. -/
  bits : UInt64
deriving DecidableEq, Inhabited

namespace Binary64

/-- The place of the sign. -/
def signBit : Nat := 0x8000000000000000

/-- The place behind the fraction, which is the leading bit of a normal significand. -/
def leadingBit : Nat := 0x10000000000000

def infinityBits : Nat := 0x7FF0000000000000

/-- The number with the given sign whose other bits are given. -/
def ofMagnitude (negative : Bool) (bits : Nat) : Binary64 :=
  ⟨UInt64.ofNat (if negative then signBit + bits else bits)⟩

/-- The number that is none. -/
def nan : Binary64 := ⟨0x7FF8000000000000⟩

def infinity (negative : Bool) : Binary64 := ofMagnitude negative infinityBits

/-- Zero with the given sign. -/
def zero (negative : Bool) : Binary64 := ofMagnitude negative 0

/-- Whether the sign is minus. -/
def isNegative (x : Binary64) : Bool := signBit ≤ x.bits.toNat

/-- The bits below the sign. -/
def magnitude (x : Binary64) : Nat := x.bits.toNat % signBit

/-- Whether this is no number. -/
def isNaN (x : Binary64) : Bool := infinityBits < x.magnitude

/-- Whether this is a number other than the infinities. -/
def isFinite (x : Binary64) : Bool := x.magnitude < infinityBits

/-- Whether this is one of the two zeros. -/
def isZero (x : Binary64) : Bool := x.magnitude == 0

/-- Significand `m` and exponent `q` of a finite number of size `m · 2 ^ q`. -/
def parts (x : Binary64) : Nat × Int :=
  let field : Nat := x.magnitude / leadingBit
  let fraction : Nat := x.magnitude % leadingBit
  if field = 0 then (fraction, -1074) else (leadingBit + fraction, (Int.ofNat field) - 1075)

/-! ## Comparing -/

/-- Numeric equality, by which the zeros are equal, extended to make NaN equal to itself. -/
def same (x y : Binary64) : Bool :=
  x == y || (x.isNaN && y.isNaN) || (x.isZero && y.isZero)

/-! ## Rounding -/

/-- The quotient rounded to the nearest whole number, a tie going to the even one. -/
def roundQuotient (num den : Nat) : Nat :=
  let quotient := num / den
  let twice := 2 * (num % den)
  if twice < den then quotient
  else if den < twice then quotient + 1
  else if quotient % 2 = 0 then quotient else quotient + 1

/-- The exponent of the last place of a number of the size `num / den`. -/
def lastPlace (num den : Nat) : Int :=
  let guess : Int := (Nat.log2 num : Int) - Nat.log2 den - 52
  let below : Bool := num <<< (-guess).toNat < den <<< (guess.toNat + 52)
  max (if below then guess - 1 else guess) (-1074)

/-- The number nearest to `num / den`, a tie going to the even significand. -/
def ofRatio (negative : Bool) (num den : Nat) : Binary64 :=
  if num = 0 then zero negative
  else
    let place := lastPlace num den
    let significand := roundQuotient (num <<< (-place).toNat) (den <<< place.toNat)
    -- a significand with its leading bit adds one to the exponent, and so does one rounded up
    let bits := (place + 1074).toNat * leadingBit + significand
    if bits < infinityBits then ofMagnitude negative bits else infinity negative

/-- The number nearest to `digits · 10 ^ exponent`. Decimals far out of range are not expanded. -/
def ofDecimal (negative : Bool) (digits : Nat) (exponent : Int) : Binary64 :=
  if digits = 0 || exponent < -(400 + (Nat.log2 digits : Int)) then zero negative
  else if 400 < exponent then infinity negative
  else ofRatio negative (digits * Nat.pow 10 exponent.toNat) (Nat.pow 10 (-exponent).toNat)

/-- The number nearest to a whole number. -/
def ofInt (n : Int) : Binary64 := ofRatio (n < 0) n.natAbs 1

/-! ## The machine's numbers -/

/-- The machine number of the same bits. -/
def toFloat (x : Binary64) : Float := Float.ofBits x.bits

/-- The number of a machine number's bits. -/
def ofFloat (x : Float) : Binary64 :=
  let y : Binary64 := ⟨x.toBits⟩
  if y.isNaN then nan else y

end Binary64

end CiWorkflow.Decimal
