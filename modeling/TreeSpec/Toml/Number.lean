import TreeSpec.Numeric.Binary64
import TreeSpec.Toml.Text

/-!
# Numbers of TOML

Integers fit 64 bits with a sign; they may be written to the bases two, eight and sixteen.
Floats are doubles. A single underscore may stand between any two digits.
-/

namespace TreeSpec.Toml

/-- The digits at the start of a text, without the underscores between them. -/
def takeDigits (isDigit : Char → Bool) : List Char → List Char × List Char
  | '_' :: c :: cs =>
    if isDigit c then
      let (run, rest) := takeDigits isDigit cs
      (c :: run, rest)
    else ([], '_' :: c :: cs)
  | c :: cs =>
    if isDigit c then
      let (run, rest) := takeDigits isDigit cs
      (c :: run, rest)
    else ([], c :: cs)
  | [] => ([], [])

/-- A run of digits, at least one, that does not start with an underscore. -/
def readRun (isDigit : Char → Bool) : List Char → Option (Read (List Char))
  | c :: cs =>
    if isDigit c then consRead c (some (takeDigits isDigit cs)) else none
  | [] => none

/-- The digits of a decimal integer: a single zero, or a run that starts with another
digit. -/
def readWhole : List Char → Option (Read (List Char))
  | '0' :: cs => some (['0'], cs)
  | cs => readRun Char.isDigit cs

/-- The integer `n`, if it fits 64 bits. -/
def boundedInteger? (n : Int) : Option Int :=
  if -0x8000000000000000 ≤ n ∧ n < 0x8000000000000000 then some n else none

def basedInteger? (base : Nat) (run : List Char) : Option Int := do
  let n ← run.foldlM (fun n c => return n * base + (← Text.hexDigit? c)) 0
  boundedInteger? n

def isDigitOf (base : Nat) (c : Char) : Bool := (Text.hexDigit? c).any fun n => n < base

/-- The rest of an integer behind the mark of its base. -/
def readBased (base : Nat) (cs : List Char) : Option (Read Int) := do
  let (run, rest) ← readRun (isDigitOf base) cs
  return (← basedInteger? base run, rest)

def readInteger : List Char → Option (Read Int)
  | '0' :: 'x' :: cs => readBased 16 cs
  | '0' :: 'o' :: cs => readBased 8 cs
  | '0' :: 'b' :: cs => readBased 2 cs
  | cs => do
    let (negative, cs) := Text.readSign cs
    let (run, rest) ← readWhole cs
    let n : Int := Text.digitsValue run
    return (← boundedInteger? (if negative then -n else n), rest)

def readFraction : List Char → Option (Read (List Char))
  | '.' :: cs => readRun Char.isDigit cs
  | cs => some ([], cs)

def readExponent : List Char → Option (Read (Option Int))
  | c :: cs =>
    if c = 'e' ∨ c = 'E' then do
      let (negative, cs) := Text.readSign cs
      let (run, rest) ← readRun Char.isDigit cs
      let n : Int := Text.digitsValue run
      return (some (if negative then -n else n), rest)
    else some (none, c :: cs)
  | [] => some (none, [])

/-- A float with a fraction or an exponent. One that is too large is refused, unless it is
negative. -/
def readDecimal (cs : List Char) : Option (Read Float) := do
  let (negative, cs) := Text.readSign cs
  let (whole, cs) ← readWhole cs
  let (fraction, cs) ← readFraction cs
  let (exponent, cs) ← readExponent cs
  if fraction.isEmpty && exponent.isNone then none
  else
    let digits := Text.digitsValue (whole ++ fraction)
    let x := Numeric.nearestDecimal negative digits (exponent.getD 0 - fraction.length)
    if x.isInf && !negative then none else some (x, cs)

def readSpecial (cs : List Char) : Option (Read Float) :=
  let signed (x : Float) : Float := if (Text.readSign cs).1 then -x else x
  match (Text.readSign cs).2 with
  | 'i' :: 'n' :: 'f' :: rest => some (signed (1.0 / 0.0), rest)
  | 'n' :: 'a' :: 'n' :: rest => some (signed (0.0 / 0.0), rest)
  | _ => none

def readFloat (cs : List Char) : Option (Read Float) := readDecimal cs <|> readSpecial cs

end TreeSpec.Toml
