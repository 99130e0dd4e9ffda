/-!
# Sizes

Indentation depths, lengths, positions and steps are 64-bit numbers. A number that is too
large is brought down to the largest size; arithmetic on positions is done in `Nat`, so
that it cannot wrap.
-/

namespace TreeSpec

/-- A number of elements, a position among them or a depth. -/
abbrev Size := UInt64

namespace Size

abbrev largest : Nat := 0xFFFFFFFFFFFFFFFF

/-- The size nearest to `n`: `n` itself, or the largest size. -/
def clamp (n : Nat) : Size := UInt64.ofNatClamp n

def ofNat? (n : Nat) : Option Size := if n ≤ largest then some (clamp n) else none

def ofInt? : Int → Option Size
  | .ofNat n => ofNat? n
  | .negSucc _ => none

theorem toNat_clamp (n : Nat) : (clamp n).toNat = min n largest := by
  by_cases h : n < UInt64.size
  · rw [clamp, UInt64.toNat_ofNatClamp_of_lt h]
    simp only [UInt64.size, largest] at h ⊢
    omega
  · rw [clamp, UInt64.toNat_ofNatClamp_of_le (by omega)]
    simp only [UInt64.size, largest] at h ⊢
    omega

theorem toNat_le (s : Size) : s.toNat ≤ largest := by
  have := s.toNat_lt
  simp only [largest]
  omega

theorem clamp_toNat (s : Size) : clamp s.toNat = s := by
  apply UInt64.toNat.inj
  rw [toNat_clamp]
  exact Nat.min_eq_left (toNat_le s)

theorem ofNat?_eq_some_iff {n : Nat} {s : Size} : ofNat? n = some s ↔ s.toNat = n := by
  unfold ofNat?
  constructor
  · split
    · rintro ⟨⟩
      rw [toNat_clamp]
      omega
    · nofun
  · rintro rfl
    rw [if_pos (toNat_le s), clamp_toNat]

theorem ofInt?_eq_some_iff {n : Int} {s : Size} : ofInt? n = some s ↔ n = s.toNat := by
  cases n with
  | ofNat k =>
    rw [ofInt?, ofNat?_eq_some_iff, Int.ofNat_eq_natCast]
    omega
  | negSucc k =>
    refine iff_of_false nofun ?_
    intro same
    have := Int.negSucc_lt_zero k
    omega

end Size

/-- A step from one selected position to the next: a size other than zero. -/
structure Step where
  size : Size
  ne_zero : size ≠ 0
deriving DecidableEq

namespace Step

def one : Step := ⟨1, by decide⟩

def ofSize? (s : Size) : Option Step := if h : s = 0 then none else some ⟨s, h⟩

theorem pos (s : Step) : 0 < s.size.toNat := by
  rcases Nat.eq_zero_or_pos s.size.toNat with h | h
  · exact absurd (UInt64.toNat.inj h) s.ne_zero
  · exact h

end Step

end TreeSpec
