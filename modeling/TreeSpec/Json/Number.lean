import TreeSpec.Json.Numeral
import TreeSpec.Numeric.Layout
import TreeSpec.Size

/-!
# Numbers of JSON

What a numeral stands for: an integer if it is written as one and fits 64 bits, else a
floating-point number. The latter keeps its numeral; its double is worked out on demand.
-/

namespace TreeSpec.Json

/-- An integer that fits 64 bits, with or without a sign. -/
structure Integer where
  val : Int
  lower : -0x8000000000000000 ≤ val
  upper : val ≤ Size.largest
deriving DecidableEq

inductive Number where
  | integer (n : Integer)
  | floating (numeral : Numeral)
deriving DecidableEq

def Integer.ofInt? (n : Int) : Option Integer :=
  if h : -0x8000000000000000 ≤ n ∧ n ≤ Size.largest then some ⟨n, h.1, h.2⟩ else none

namespace Numeral

/-- The integer that a numeral without fraction and exponent writes, if it fits. A zero
with a minus is no integer. -/
def integer? (n : Numeral) : Option Integer :=
  if n.fraction.isEmpty && n.exponent.isNone then
    let magnitude := Text.digitsValue n.whole
    if n.negative then
      if magnitude = 0 then none else Integer.ofInt? (-magnitude)
    else Integer.ofInt? magnitude
  else none

def number (n : Numeral) : Number :=
  match n.integer? with
  | some i => .integer i
  | none => .floating n

/-- A value with as many further digits as it can take in 64 bits, and the digits left. -/
def absorb (value : Nat) : List Char → Nat × List Char
  | [] => (value, [])
  | d :: run =>
    let next := value * 10 + (d.toNat - '0'.toNat)
    if next ≤ Size.largest then absorb next run else (value, d :: run)

/-- The numeral as a number of 64 bits times a power of ten. Digits before the point that
do not fit count as zeros, and those behind it not at all. -/
def scaled (n : Numeral) : Nat × Int :=
  let (value, zeros) := absorb 0 n.whole
  let (value, dropped) := absorb value n.fraction
  (value, zeros.length + dropped.length - n.fraction.length + n.exponent.getD 0)

def powerOfTen (exponent : Nat) : Float := Numeric.nearestDecimal false 1 exponent

/-- A double divided by `10 ^ exponent`, in steps within the range of doubles. -/
def divideByPower (x : Float) (exponent : Nat) : Float :=
  if exponent ≤ 308 then x / powerOfTen exponent
  else if x == 0 then x
  else divideByPower (x / powerOfTen 308) (exponent - 308)
termination_by exponent

/-- The size of the double that a numeral is read as: its leading digits, multiplied or
divided by a power of ten. There is none past the largest double. -/
def magnitude? (n : Numeral) : Option Float :=
  let (value, exponent) := n.scaled
  let x := (UInt64.ofNat value).toFloat
  if exponent < 0 then some (divideByPower x exponent.natAbs)
  else if value = 0 then some x
  else if 308 < exponent then none
  else
    let product := x * powerOfTen exponent.toNat
    if product.isInf then none else some product

def double? (n : Numeral) : Option Float :=
  n.magnitude?.map fun x => if n.negative then -x else x

end Numeral

/-- Doubles are written with their shortest digits, with an exponent from `1e+16` on and
below `1e-5`. -/
def doubleLayout : Numeric.Layout where
  positional := some (-5, 15)
  plus := true
  tie := .toEven
  nan := "null"
  infinity := "null"

def Numeral.doubleText (n : Numeral) : String :=
  match n.double? with
  | some x => doubleLayout.text x
  | none => doubleLayout.infinity

def Number.text : Number → List Char
  | .integer n => Text.decimalInt n.val
  | .floating n => n.doubleText.toList

end TreeSpec.Json
