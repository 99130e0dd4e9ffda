import TreeSpec.Numeric.Shortest

/-!
# The text of a double

How the shortest digits of a double are laid out: with a point among them, or with an
exponent behind them. The choices are the fields of a `Layout`.
-/

namespace TreeSpec.Numeric

structure Layout where
  /-- The exponents of the leading digit for which no exponent is written; `none` when one
  never is. -/
  positional : Option (Int × Int)
  plus : Bool
  tie : Tie
  nan : String
  infinity : String

/-- The digits `ds` with a point behind the digit of exponent zero, the first of them
having exponent `lead`. A whole number ends in `.0`. -/
def positionalText (ds : List Char) (lead : Int) : List Char :=
  if lead < 0 then
    '0' :: '.' :: (List.replicate ((-lead).toNat - 1) '0' ++ ds)
  else
    let whole := lead.toNat + 1
    let padded := ds ++ List.replicate (whole - ds.length) '0'
    let fraction := padded.drop whole
    padded.take whole ++ '.' :: if fraction.isEmpty then ['0'] else fraction

/-- The digits `ds` with a point behind the first of them and the exponent `lead`. -/
def scientificText (plus : Bool) (ds : List Char) (lead : Int) : List Char :=
  let exponent := (toString lead.natAbs).toList
  let sign := if lead < 0 then ['-'] else if plus then ['+'] else []
  let mantissa :=
    match ds with
    | d :: [] => [d]
    | d :: rest => d :: '.' :: rest
    | [] => []
  mantissa ++ 'e' :: (sign ++ exponent)

def Layout.magnitude (layout : Layout) (b : Binary64) : List Char :=
  if b.mantissa = 0 then ['0', '.', '0']
  else
    let d := b.shortest layout.tie
    let ds := Nat.toDigits 10 d.digits
    let trimmed := (ds.reverse.dropWhile (· == '0')).reverse
    let lead := d.exponent + ds.length - 1
    match layout.positional with
    | none => positionalText trimmed lead
    | some (low, high) =>
      if low ≤ lead ∧ lead ≤ high then positionalText trimmed lead
      else scientificText layout.plus trimmed lead

def Layout.text (layout : Layout) (x : Float) : String :=
  let sign := if isNegative x then "-" else ""
  match Binary64.ofFloat? x with
  | some b => sign ++ String.ofList (layout.magnitude b)
  | none => if x.isNaN then layout.nan else sign ++ layout.infinity

end TreeSpec.Numeric
