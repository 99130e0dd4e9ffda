import TreeSpec.Text.Digits

/-!
# Values of runs of digits

What holds of the number that a run of digits denotes, and of the plain decimal text of a
number. A run may be longer than any size and may start with any number of zeros.
-/

namespace TreeSpec.Text

/-- One or more ASCII digits. -/
def IsRun (cs : List Char) : Prop := cs ≠ [] ∧ ∀ c ∈ cs, c.isDigit = true

instance (cs : List Char) : Decidable (IsRun cs) :=
  decidable_of_decidable_of_iff (p := cs ≠ [] ∧ cs.all Char.isDigit)
    (and_congr Iff.rfl List.all_eq_true)

theorem isDigit_of_mem_decimal {n : Nat} {c : Char} (h : c ∈ decimal n) : c.isDigit = true :=
  Nat.isDigit_of_mem_toDigits (by decide) (by decide) h

theorem isRun_decimal (n : Nat) : IsRun (decimal n) :=
  ⟨Nat.toDigits_ne_nil, fun _ h => isDigit_of_mem_decimal h⟩

theorem decimal_of_ten_le {n : Nat} (h : 10 ≤ n) :
    decimal n = decimal (n / 10) ++ [Nat.digitChar (n % 10)] :=
  Nat.toDigits_of_base_le (by decide) h

/-- Only zero is written with a leading zero. -/
theorem head?_decimal {n : Nat} (h : n ≠ 0) : (decimal n).head? ≠ some '0' := by
  induction n using Nat.strongRecOn with
  | ind n ih =>
    by_cases small : n < 10
    · have digit : ∀ d < 10, d ≠ 0 → d.digitChar ≠ '0' := by decide
      rw [decimal, Nat.toDigits_of_lt_base small]
      intro hz
      exact digit n small h (Option.some.inj hz)
    · have front := ih (n / 10) (by omega) (by omega)
      rw [decimal_of_ten_le (by omega)]
      intro hz
      have some : (decimal (n / 10)).head?.isSome := List.isSome_head?.2 Nat.toDigits_ne_nil
      rw [List.head?_append, Option.or_of_isSome some] at hz
      exact front hz

theorem decimal_eq_cons (n : Nat) :
    ∃ d tail, decimal n = d :: tail ∧ d.isDigit = true ∧ (n ≠ 0 → d ≠ '0') := by
  cases hd : decimal n with
  | nil => exact absurd hd Nat.toDigits_ne_nil
  | cons d tail =>
    refine ⟨d, tail, rfl, isDigit_of_mem_decimal (hd ▸ List.mem_cons_self), ?_⟩
    rintro h rfl
    exact head?_decimal h (hd ▸ rfl)

theorem digitsValue_cons_eq_zero_iff (c : Char) (run : List Char) :
    digitsValue (c :: run) = 0 ↔ c.toNat - '0'.toNat = 0 ∧ digitsValue run = 0 := by
  unfold digitsValue
  rw [Nat.ofDigitChars_cons, Nat.ofDigitChars_eq_ofDigitChars_zero, Nat.add_eq_zero_iff,
    Nat.mul_eq_zero]
  simp

/-- Zeros in front of a run do not count. -/
theorem digitsValue_zeros_append (k : Nat) (run : List Char) :
    digitsValue (List.replicate k '0' ++ run) = digitsValue run := by
  unfold digitsValue
  rw [Nat.ofDigitChars_append, Nat.ofDigitChars_replicate_zero, Nat.mul_zero]

theorem eq_zero_of_isDigit {c : Char} (h : c.isDigit = true) (hz : c.toNat - '0'.toNat = 0) :
    c = '0' := by
  simp only [Char.isDigit, ge_iff_le, Bool.and_eq_true, decide_eq_true_eq] at h
  have low := UInt32.le_iff_toNat_le.1 h.1
  apply Char.toNat_inj.1
  change '0'.toNat ≤ c.toNat at low
  omega

/-- A run denotes zero only if it has no other digit. -/
theorem digitsValue_eq_zero_iff {run : List Char} (h : ∀ c ∈ run, c.isDigit = true) :
    digitsValue run = 0 ↔ ∀ c ∈ run, c = '0' := by
  induction run with
  | nil => simp [digitsValue]
  | cons c run ih =>
    have tail := ih fun d hd => h d (List.mem_cons_of_mem c hd)
    rw [digitsValue_cons_eq_zero_iff, tail, List.forall_mem_cons]
    constructor
    · rintro ⟨hc, hr⟩
      exact ⟨eq_zero_of_isDigit (h c List.mem_cons_self) hc, hr⟩
    · rintro ⟨rfl, hr⟩
      exact ⟨by simp, hr⟩

end TreeSpec.Text
