import TreeSpec.Size

/-!
# Machine integers

Integers of a fixed number of bits, with a sign or without one, and what becomes of them as sizes. A
number that is no size is refused before its bits are brought to the width of a size.
-/

namespace TreeSpec

inductive Width where
  | bits8
  | bits16
  | bits32
  | bits64
  | bits128
  | pointer
deriving DecidableEq, Repr

/-- The number of bits of a width. A pointer has as many bits as a size. -/
def Width.bits : Width → Nat
  | .bits8 => 8
  | .bits16 => 16
  | .bits32 => 32
  | .bits64 => 64
  | .bits128 => 128
  | .pointer => 64

/-- A type of machine integers. There are twelve: each width with a sign and without one. -/
structure IntegerType where
  width : Width
  signed : Bool
deriving DecidableEq, Repr

namespace IntegerType

abbrev Bits (τ : IntegerType) : Type := BitVec τ.width.bits

variable (τ : IntegerType)

/-- The number that bits stand for. With a sign, the first bit counts as negative. -/
def value (bits : τ.Bits) : Int := if τ.signed then bits.toInt else bits.toNat

/-- The bits brought to the width of a size: bits that are too many are dropped, and those that are
missing are copies of the sign, or zeros if there is none. -/
def cast (bits : τ.Bits) : Size :=
  .ofBitVec (if τ.signed then bits.signExtend 64 else bits.setWidth 64)

def toSize? (bits : τ.Bits) : Option Size :=
  if 0 ≤ τ.value bits ∧ τ.value bits ≤ Size.largest then some (τ.cast bits) else none

end IntegerType

end TreeSpec
