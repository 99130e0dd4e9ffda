import TreeSpec.Json.Lexeme
import TreeSpec.Text.Digits

/-!
# Numerals of JSON

A number as it is written: an optional minus, digits without a leading zero, and possibly
a fraction and an exponent.
-/

namespace TreeSpec.Json

/-- A number as it is written: the digits before and behind the point, and the exponent. -/
structure Numeral where
  negative : Bool
  whole : List Char
  fraction : List Char
  exponent : Option Int
deriving DecidableEq, Repr

/-- The digits at the start of a text, at least one, and what follows. -/
def readDigits (cs : List Char) : Except Fault (List Char × List Char) :=
  let run := cs.takeWhile Char.isDigit
  let rest := cs.dropWhile Char.isDigit
  if run.isEmpty then .error (faultAt rest) else .ok (run, rest)

/-- The digits before the point: a single zero, or a run that starts with another digit. -/
def readWhole : List Char → Except Fault (List Char × List Char)
  | '0' :: cs =>
    if (cs.head?.map Char.isDigit).getD false then .error .malformed else .ok (['0'], cs)
  | cs => readDigits cs

def readFraction : List Char → Except Fault (List Char × List Char)
  | '.' :: cs => readDigits cs
  | cs => .ok ([], cs)

def readExponent : List Char → Except Fault (Option Int × List Char)
  | c :: cs =>
    if c = 'e' ∨ c = 'E' then
      let (negative, cs) := Text.readSign cs
      (readDigits cs).map fun (run, rest) =>
        let value : Int := Text.digitsValue run
        (some (if negative then -value else value), rest)
    else .ok (none, c :: cs)
  | [] => .ok (none, [])

def readMagnitude (negative : Bool) (cs : List Char) : Except Fault (Numeral × List Char) := do
  let (whole, cs) ← readWhole cs
  let (fraction, cs) ← readFraction cs
  let (exponent, cs) ← readExponent cs
  return (⟨negative, whole, fraction, exponent⟩, cs)

def readNumeral : List Char → Except Fault (Numeral × List Char)
  | '-' :: cs => readMagnitude true cs
  | cs => readMagnitude false cs

theorem length_of_readDigits {cs run rest : List Char} (h : readDigits cs = .ok (run, rest)) :
    rest.length < cs.length := by
  simp only [readDigits] at h
  split at h
  · simp at h
  · rename_i hne
    simp only [Except.ok.injEq, Prod.mk.injEq] at h
    have split := congrArg List.length
      (List.takeWhile_append_dropWhile (p := Char.isDigit) (l := cs))
    rw [List.length_append, h.2] at split
    have : (cs.takeWhile Char.isDigit).length ≠ 0 := by
      simpa [List.isEmpty_iff] using hne
    omega

theorem length_of_readWhole {cs run rest : List Char} (h : readWhole cs = .ok (run, rest)) :
    rest.length < cs.length := by
  fun_cases readWhole cs with
  | case1 => simp_all [readWhole]
  | case2 => simp_all [readWhole]
  | case3 cs hne =>
    rw [readWhole] at h
    · exact length_of_readDigits h
    · exact hne

theorem length_of_readFraction {cs run rest : List Char} (h : readFraction cs = .ok (run, rest)) :
    rest.length ≤ cs.length := by
  fun_cases readFraction cs with
  | case1 cs =>
    have := length_of_readDigits h
    simp only [List.length_cons]
    omega
  | case2 cs hne => simp_all [readFraction]

theorem length_of_readExponent {cs rest : List Char} {e : Option Int}
    (h : readExponent cs = .ok (e, rest)) : rest.length ≤ cs.length := by
  cases cs with
  | nil => simp_all [readExponent]
  | cons c cs =>
    simp only [readExponent] at h
    split at h
    · rcases hd : readDigits (Text.readSign cs).2 with _ | ⟨run, left⟩
      · simp [hd, Except.map] at h
      · simp only [hd, Except.map, Except.ok.injEq, Prod.mk.injEq] at h
        have := length_of_readDigits hd
        have := Text.length_of_readSign cs
        rw [← h.2, List.length_cons]
        omega
    · simp only [Except.ok.injEq, Prod.mk.injEq] at h
      simp [← h.2]

theorem length_of_readMagnitude {negative : Bool} {cs rest : List Char} {n : Numeral}
    (h : readMagnitude negative cs = .ok (n, rest)) : rest.length < cs.length := by
  unfold readMagnitude at h
  rcases hw : readWhole cs with _ | ⟨whole, afterWhole⟩
  · simp [hw, bind, Except.bind] at h
  rcases hf : readFraction afterWhole with _ | ⟨fraction, afterFraction⟩
  · simp [hw, hf, bind, Except.bind] at h
  rcases he : readExponent afterFraction with _ | ⟨exponent, afterExponent⟩
  · simp [hw, hf, he, bind, Except.bind] at h
  simp only [hw, hf, he, bind, Except.bind, pure, Except.pure, Except.ok.injEq,
    Prod.mk.injEq] at h
  have := length_of_readWhole hw
  have := length_of_readFraction hf
  have := length_of_readExponent he
  rw [← h.2]
  omega

theorem length_of_readNumeral {cs rest : List Char} {n : Numeral}
    (h : readNumeral cs = .ok (n, rest)) : rest.length < cs.length := by
  fun_cases readNumeral cs with
  | case1 cs =>
    have := length_of_readMagnitude h
    simp only [List.length_cons]
    omega
  | case2 cs hne =>
    rw [readNumeral] at h
    · exact length_of_readMagnitude h
    · exact hne

end TreeSpec.Json
