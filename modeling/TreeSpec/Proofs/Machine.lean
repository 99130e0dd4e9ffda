import Mathlib.Algebra.Group.Int.Defs
import Mathlib.Algebra.Group.Nat.Defs
import TreeSpec.Machine

/-!
# The numbers of machine integers

The numbers of a type of machine integers are all those between its least and its greatest one
(`exists_value_iff`). Where one of them is a size, the bits that are dropped or put in front are
zeros, so the conversion keeps the number (`toSize?_eq`).
-/

namespace TreeSpec

theorem Width.bits_pos (width : Width) : 0 < width.bits := by
  cases width <;> decide

theorem exists_toNat_iff {w : Nat} {n : Int} :
    (∃ bits : BitVec w, (bits.toNat : Int) = n) ↔ 0 ≤ n ∧ n ≤ 2 ^ w - 1 := by
  have power : ((2 ^ w : Nat) : Int) = 2 ^ w := Int.natCast_pow 2 w
  rw [← power]
  constructor
  · rintro ⟨bits, rfl⟩
    have := bits.isLt
    omega
  · rintro ⟨nonnegative, fits⟩
    refine ⟨.ofNat w n.toNat, ?_⟩
    rw [BitVec.toNat_ofNat, Nat.mod_eq_of_lt (by omega)]
    exact Int.toNat_of_nonneg nonnegative

theorem exists_toInt_iff {w : Nat} (hw : 0 < w) {n : Int} :
    (∃ bits : BitVec w, bits.toInt = n) ↔ -2 ^ (w - 1) ≤ n ∧ n ≤ 2 ^ (w - 1) - 1 := by
  constructor
  · rintro ⟨bits, rfl⟩
    have := bits.le_toInt
    have := bits.toInt_lt
    omega
  · rintro ⟨reached, fits⟩
    exact ⟨.ofInt w n, BitVec.toInt_ofInt_eq_self hw reached (by omega)⟩

namespace IntegerType

variable (τ : IntegerType)

/-- The least number of a type. -/
def least : Int := if τ.signed then -2 ^ (τ.width.bits - 1) else 0

/-- The greatest number of a type. -/
def greatest : Int := if τ.signed then 2 ^ (τ.width.bits - 1) - 1 else 2 ^ τ.width.bits - 1

/-- The numbers of a type are those from the least to the greatest. -/
theorem exists_value_iff {n : Int} :
    (∃ bits, τ.value bits = n) ↔ τ.least ≤ n ∧ n ≤ τ.greatest := by
  obtain ⟨width, signed⟩ := τ
  cases signed with
  | false => exact exists_toNat_iff
  | true => exact exists_toInt_iff width.bits_pos

/-- Bits of a number that is no larger than all sizes are not lost. -/
theorem toNat_setWidth_of_le {bits : BitVec n} (fits : bits.toNat ≤ Size.largest) :
    (bits.setWidth 64).toNat = bits.toNat := by
  rw [BitVec.toNat_setWidth]
  simp only [Size.largest] at fits
  exact Nat.mod_eq_of_lt (by omega)

theorem toNat_cast {bits : τ.Bits} (nonnegative : 0 ≤ τ.value bits)
    (fits : τ.value bits ≤ Size.largest) : ((τ.cast bits).toNat : Int) = τ.value bits := by
  obtain ⟨width, signed⟩ := τ
  cases signed with
  | false =>
    simp only [value, cast, Bool.false_eq_true, if_false] at fits ⊢
    rw [UInt64.toNat_ofBitVec, toNat_setWidth_of_le (by omega)]
  | true =>
    simp only [value, cast, if_true] at nonnegative fits ⊢
    have plain : bits.msb = false := by
      rw [BitVec.msb_eq_toInt, decide_eq_false_iff_not]
      omega
    rw [BitVec.toInt_eq_toNat_of_msb plain] at fits ⊢
    rw [BitVec.signExtend_eq_setWidth_of_msb_false plain, UInt64.toNat_ofBitVec,
      toNat_setWidth_of_le (by omega)]

/-- An integer becomes the size that its number is. -/
theorem toSize?_eq (bits : τ.Bits) : τ.toSize? bits = Size.ofInt? (τ.value bits) := by
  ext s
  rw [Size.ofInt?_eq_some_iff, toSize?]
  split
  · rename_i range
    have kept := τ.toNat_cast range.1 range.2
    rw [Option.some_inj]
    constructor
    · rintro rfl
      exact kept.symm
    · intro same
      apply UInt64.toNat.inj
      omega
  · rename_i outside
    refine iff_of_false nofun ?_
    intro same
    have := s.toNat_le
    omega

end IntegerType

end TreeSpec
