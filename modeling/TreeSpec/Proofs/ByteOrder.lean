import Mathlib.Data.String.Basic

/-!
# Texts in the order of their bytes

Texts are compared by code points, character by character. Comparing their UTF-8 encodings byte
by byte gives the same order (`utf8_lt_iff`): a character with more bytes starts with a larger one,
and of two characters with the same number of bytes the bytes are digits of the code point, the
highest first.
-/

namespace TreeSpec.Text

/-- The bytes of the UTF-8 encoding of a text. -/
def utf8 (s : String) : List UInt8 := s.toUTF8.data.toList

theorem utf8_eq_flatMap (s : String) : utf8 s = s.toList.flatMap String.utf8EncodeChar := by
  conv => lhs; rw [← String.ofList_toList (s := s)]
  exact List.toList_data_toByteArray

/-- Bytes are compared by their numbers, and the bytes behind them if these are equal. -/
theorem byte_cons_lt {m n : Nat} {s t : List UInt8} (hn : n < 256) (h : m < n ∨ m = n ∧ s < t) :
    UInt8.ofNat m :: s < UInt8.ofNat n :: t := by
  rw [List.cons_lt_cons_iff]
  rcases h with less | ⟨rfl, behind⟩
  · left
    rw [UInt8.lt_iff_toNat_lt, UInt8.toNat_ofNat', UInt8.toNat_ofNat']
    omega
  · exact .inr ⟨rfl, behind⟩

/-- A byte that continues a character carries the lowest six bits of what is left of it. -/
theorem continuation_lt {m n : Nat} {s t : List UInt8}
    (h : m % 0x40 < n % 0x40 ∨ m % 0x40 = n % 0x40 ∧ s < t) :
    UInt8.ofNat (m % 0x40 + 0x80) :: s < UInt8.ofNat (n % 0x40 + 0x80) :: t := by
  apply byte_cons_lt (by omega)
  rcases h with less | ⟨same, behind⟩
  · left
    omega
  · exact .inr ⟨by omega, behind⟩

section
variable {m n : Nat} {s t : List UInt8}

theorem last_lt (h : m < n) (same : m / 64 = n / 64) :
    UInt8.ofNat (m % 0x40 + 0x80) :: s < UInt8.ofNat (n % 0x40 + 0x80) :: t :=
  continuation_lt (.inl (by omega))

theorem last_two_lt (h : m < n) (same : m / 4096 = n / 4096) :
    UInt8.ofNat (m / 64 % 0x40 + 0x80) :: UInt8.ofNat (m % 0x40 + 0x80) :: s <
      UInt8.ofNat (n / 64 % 0x40 + 0x80) :: UInt8.ofNat (n % 0x40 + 0x80) :: t := by
  apply continuation_lt
  by_cases next : m / 64 = n / 64
  · exact .inr ⟨by omega, last_lt h next⟩
  · exact .inl (by omega)

theorem last_three_lt (h : m < n) (same : m / 262144 = n / 262144) :
    UInt8.ofNat (m / 4096 % 0x40 + 0x80) :: UInt8.ofNat (m / 64 % 0x40 + 0x80) ::
        UInt8.ofNat (m % 0x40 + 0x80) :: s <
      UInt8.ofNat (n / 4096 % 0x40 + 0x80) :: UInt8.ofNat (n / 64 % 0x40 + 0x80) ::
        UInt8.ofNat (n % 0x40 + 0x80) :: t := by
  apply continuation_lt
  by_cases next : m / 4096 = n / 4096
  · exact .inr ⟨by omega, last_two_lt h next⟩
  · exact .inl (by omega)

end

/-- The bytes of a code point: one, or a first byte that tells how many others continue it. -/
inductive Encoded : Nat → List UInt8 → Prop
  | one {n} : n ≤ 0x7f → Encoded n [UInt8.ofNat n]
  | two {n} : 0x7f < n → n ≤ 0x7ff →
      Encoded n [UInt8.ofNat (n / 64 % 0x20 + 0xc0), UInt8.ofNat (n % 0x40 + 0x80)]
  | three {n} : 0x7ff < n → n ≤ 0xffff →
      Encoded n [UInt8.ofNat (n / 4096 % 0x10 + 0xe0), UInt8.ofNat (n / 64 % 0x40 + 0x80),
        UInt8.ofNat (n % 0x40 + 0x80)]
  | four {n} : 0xffff < n → n < 0x110000 →
      Encoded n [UInt8.ofNat (n / 262144 % 0x08 + 0xf0), UInt8.ofNat (n / 4096 % 0x40 + 0x80),
        UInt8.ofNat (n / 64 % 0x40 + 0x80), UInt8.ofNat (n % 0x40 + 0x80)]

theorem encoded_char (c : Char) : Encoded c.toNat (String.utf8EncodeChar c) := by
  have top : c.val.toNat < 0x110000 := by
    have valid := c.valid
    simp only [UInt32.isValidChar, Nat.isValidChar] at valid
    omega
  simp only [String.utf8EncodeChar]
  change Encoded c.val.toNat _
  by_cases first : c.val.toNat ≤ 0x7f
  · rw [if_pos first]
    exact .one first
  · rw [if_neg first]
    by_cases second : c.val.toNat ≤ 0x7ff
    · rw [if_pos second]
      exact .two (by omega) second
    · rw [if_neg second]
      by_cases third : c.val.toNat ≤ 0xffff
      · rw [if_pos third]
        exact .three (by omega) third
      · rw [if_neg third]
        exact .four (by omega) top

/-- The smaller of two characters has the smaller encoding, whatever follows: either its first
byte says that there are fewer, or the first six bits that differ are in the same place. -/
theorem Encoded.append_lt {m n : Nat} {xs ys : List UInt8} (hm : Encoded m xs) (hn : Encoded n ys)
    (h : m < n) (s t : List UInt8) : xs ++ s < ys ++ t := by
  cases hm with
  | one =>
    cases hn with
    | one => exact byte_cons_lt (by omega) (.inl h)
    | two | three | four => exact byte_cons_lt (by omega) (.inl (by omega))
  | two =>
    cases hn with
    | one => omega
    | two =>
      apply byte_cons_lt (by omega)
      by_cases first : m / 64 = n / 64
      · exact .inr ⟨by omega, last_lt h first⟩
      · exact .inl (by omega)
    | three | four => exact byte_cons_lt (by omega) (.inl (by omega))
  | three =>
    cases hn with
    | one | two => omega
    | three =>
      apply byte_cons_lt (by omega)
      by_cases first : m / 4096 = n / 4096
      · exact .inr ⟨by omega, last_two_lt h first⟩
      · exact .inl (by omega)
    | four => exact byte_cons_lt (by omega) (.inl (by omega))
  | four =>
    cases hn with
    | one | two | three => omega
    | four =>
      apply byte_cons_lt (by omega)
      by_cases first : m / 262144 = n / 262144
      · exact .inr ⟨by omega, last_three_lt h first⟩
      · exact .inl (by omega)

theorem flatMap_encoded_lt {cs ds : List Char} (h : cs < ds) :
    cs.flatMap String.utf8EncodeChar < ds.flatMap String.utf8EncodeChar := by
  induction h with
  | @nil d ds =>
    rw [List.flatMap_nil, List.flatMap_cons]
    obtain ⟨b, bs, encoded⟩ := List.exists_cons_of_ne_nil (String.utf8EncodeChar_ne_nil (c := d))
    rw [encoded]
    exact List.nil_lt_cons _ _
  | rel less =>
    rw [List.flatMap_cons, List.flatMap_cons]
    exact (encoded_char _).append_lt (encoded_char _) (UInt32.lt_iff_toNat_lt.1 less) _ _
  | cons _ ih =>
    rw [List.flatMap_cons, List.flatMap_cons]
    exact List.append_left_lt ih

/-- The order of the bytes is the order of the code points. -/
theorem utf8_lt_iff {a b : String} : utf8 a < utf8 b ↔ a < b := by
  have forward {a b : String} (h : a < b) : utf8 a < utf8 b := by
    rw [utf8_eq_flatMap, utf8_eq_flatMap]
    exact flatMap_encoded_lt h
  -- both orders are total, so one direction gives the other
  constructor
  · intro h
    rcases lt_trichotomy a b with less | rfl | more
    · exact less
    · exact absurd h (List.lt_irrefl _)
    · exact absurd h (List.lt_asymm (forward more))
  · exact forward

end TreeSpec.Text
