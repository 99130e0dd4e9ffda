/-!
# Runs of digits

Reading and writing natural numbers as runs of the ASCII digits `0` to `9`, and what may come with
such a run in a numeral.
-/

namespace TreeSpec.Text

/-- The number that a run of digits denotes; leading zeros do not count. -/
def digitsValue (run : List Char) : Nat := Nat.ofDigitChars 10 run 0

/-- The plain decimal text of a number: no leading zero except in `0` itself. -/
def decimal (n : Nat) : List Char := Nat.toDigits 10 n

def decimalInt : Int → List Char
  | .ofNat n => decimal n
  | .negSucc n => '-' :: decimal (n + 1)

theorem digitsValue_decimal (n : Nat) : digitsValue (decimal n) = n :=
  Nat.ofDigitChars_ten_toDigits

def hexDigit? (c : Char) : Option Nat :=
  if c.isDigit then some (c.toNat - '0'.toNat)
  else if 'a' ≤ c ∧ c ≤ 'f' then some (c.toNat - 'a'.toNat + 10)
  else if 'A' ≤ c ∧ c ≤ 'F' then some (c.toNat - 'A'.toNat + 10)
  else none

/-- A sign, if there is one: whether it is a minus. -/
def readSign : List Char → Bool × List Char
  | '+' :: cs => (false, cs)
  | '-' :: cs => (true, cs)
  | cs => (false, cs)

theorem length_of_readSign (cs : List Char) : (readSign cs).2.length ≤ cs.length := by
  fun_cases readSign cs <;> simp

def isDecimal (run : List Char) : Bool :=
  !run.isEmpty && run.all Char.isDigit && (run.head? != some '0' || run.length == 1)

end TreeSpec.Text
