/-!
# Doubles as scaled integers

A finite double is a whole number of units `2 ^ exponent`. Decoding a double into that
form and rounding a quotient to the nearest double are both exact here: they work on
natural numbers and touch `Float` only through its bits.
-/

namespace TreeSpec.Numeric

/-- The value `mantissa * 2 ^ exponent` of a finite double, without its sign. -/
structure Binary64 where
  mantissa : Nat
  exponent : Int
  /-- Whether the next smaller double is only half as far away as the next larger one. -/
  lowBoundary : Bool
deriving DecidableEq, Repr

def signBit : Nat := 0x8000000000000000

/-- The lowest bit of the exponent; the bits below it are the fraction. -/
def exponentBit : Nat := 0x10000000000000

def infinityBits : Nat := 0x7FF0000000000000

def isNegative (x : Float) : Bool := signBit ≤ x.toBits.toNat

/-- The magnitude of a double; `none` for an infinity and for not-a-number. -/
def Binary64.ofFloat? (x : Float) : Option Binary64 :=
  let bits : Nat := x.toBits.toNat % signBit
  let field : Nat := bits / exponentBit
  let fraction : Nat := bits % exponentBit
  if field = 2047 then none
  else if field = 0 then some ⟨fraction, -1074, false⟩
  else some ⟨fraction + exponentBit, (field : Int) - 1075, fraction = 0 && 1 < field⟩

/-- The quotient rounded to the nearest integer, a half to the even neighbour. -/
def roundedQuotient (numerator denominator : Nat) : Nat :=
  let floor := numerator / denominator
  let rest := 2 * (numerator % denominator)
  if rest < denominator then floor
  else if denominator < rest then floor + 1
  else floor + floor % 2

/-- The exponent of the largest power of two that is at most the quotient of two positive
numbers. -/
def binaryExponent (numerator denominator : Nat) : Int :=
  let guess : Int := numerator.log2 - denominator.log2
  if numerator * Nat.pow 2 (-guess).toNat < denominator * Nat.pow 2 guess.toNat then guess - 1
  else guess

/-- The bits of the double nearest to a quotient, a half to the even neighbour. From half
a unit past the largest double on it is infinity. -/
def nearestBits (numerator denominator : Nat) : Nat :=
  if numerator = 0 then 0
  else
    let unit := max (binaryExponent numerator denominator - 52) (-1074)
    let mantissa :=
      roundedQuotient (numerator * Nat.pow 2 (-unit).toNat) (denominator * Nat.pow 2 unit.toNat)
    min ((unit + 1074).toNat * exponentBit + mantissa) infinityBits

/-- The bits of the double nearest to `digits * 10 ^ exponent`. Numbers that are far too
small or too large for a double are not worked out. -/
def nearestDecimalBits (digits : Nat) (exponent : Int) : Nat :=
  let lead := (Nat.toDigits 10 digits).length + exponent
  if lead < -330 then 0
  else if 310 < lead then if digits = 0 then 0 else infinityBits
  else nearestBits (digits * Nat.pow 10 exponent.toNat) (Nat.pow 10 (-exponent).toNat)

def nearestDecimal (negative : Bool) (digits : Nat) (exponent : Int) : Float :=
  let bits := nearestDecimalBits digits exponent
  Float.ofBits (UInt64.ofNat (bits + if negative then signBit else 0))

end TreeSpec.Numeric
