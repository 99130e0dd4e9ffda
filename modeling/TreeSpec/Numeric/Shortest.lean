import TreeSpec.Numeric.Binary64

/-!
# The shortest decimal of a double

Of the decimals that a reader takes for a given double, the ones with the fewest digits,
and among those the nearest to it.
-/

namespace TreeSpec.Numeric

structure Decimal where
  digits : Nat
  exponent : Int
deriving DecidableEq, Repr

/-- The exponent of the largest power of ten that is at most the quotient of two positive
numbers. -/
def decimalExponent (numerator denominator : Nat) : Int :=
  let whole := numerator / denominator
  if whole ≠ 0 then (Nat.toDigits 10 whole).length - 1
  else
    let inverse := (denominator + numerator - 1) / numerator
    if inverse = Nat.pow 10 ((Nat.toDigits 10 inverse).length - 1)
    then 1 - (Nat.toDigits 10 inverse).length
    else -(Nat.toDigits 10 inverse).length

/-- A positive double between the midpoints to its neighbours, all three as numerators
over one denominator. The midpoints belong to the double when its mantissa is even. -/
structure Interval where
  low : Nat
  value : Nat
  high : Nat
  denominator : Nat
  closed : Bool

/-- The interval of the numbers that are read as a given double. -/
def Binary64.interval (b : Binary64) : Interval :=
  let unit := Nat.pow 2 b.exponent.toNat
  { low := (4 * b.mantissa - if b.lowBoundary then 1 else 2) * unit
    value := 4 * b.mantissa * unit
    high := (4 * b.mantissa + 2) * unit
    denominator := 4 * Nat.pow 2 (-b.exponent).toNat
    closed := b.mantissa % 2 = 0 }

def Interval.holds (i : Interval) (n scale : Nat) : Bool :=
  if i.closed then i.low * scale ≤ n && n ≤ i.high * scale
  else i.low * scale < n && n < i.high * scale

inductive Tie where
  | toEven
  | up
deriving DecidableEq, Repr

/-- The decimal of the grid `10 ^ exponent` that is nearest to the double, if it or the
next one is read as the double. -/
def Interval.onGrid? (i : Interval) (tie : Tie) (exponent : Int) : Option Decimal :=
  let scale := Nat.pow 10 (-exponent).toNat
  let grid := Nat.pow 10 exponent.toNat * i.denominator
  let value := i.value * scale
  let below := value / grid
  let belowHolds := i.holds (below * grid) scale
  let aboveHolds := i.holds ((below + 1) * grid) scale
  let rest := 2 * (value % grid)
  let nearerAbove :=
    if rest = grid then tie = .up || below % 2 = 1 else grid < rest
  if belowHolds && (!aboveHolds || !nearerAbove) then some ⟨below, exponent⟩
  else if aboveHolds then some ⟨below + 1, exponent⟩
  else none

/-- The shortest decimal of a positive double: the first grid on which there is one, from
one digit up to the seventeen that always suffice. -/
def Binary64.shortest (b : Binary64) (tie : Tie) : Decimal :=
  let i := b.interval
  let lead := decimalExponent i.value i.denominator
  let found := (List.range 17).findSome? fun (n : Nat) => i.onGrid? tie (lead - n)
  found.getD ⟨0, 0⟩

end TreeSpec.Numeric
