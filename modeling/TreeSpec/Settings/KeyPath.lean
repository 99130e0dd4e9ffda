import TreeSpec.Text.Digits

/-!
# Key paths

The path to a place in a tree of settings: an identifier, then identifiers behind points
and indices in brackets. An index may count from the end.
-/

namespace TreeSpec.Settings

/-- A step of a path: to an entry of a table or to an element of an array. -/
inductive Step where
  | key (name : String)
  | index (i : Int)
deriving DecidableEq, Repr

/-- Why a text is no path. -/
inductive PathFault where
  | noIdentifier
  | noIndex
  | largeIndex
  | noStep
deriving DecidableEq, Repr

def PathFault.message : PathFault → String
  | .noIdentifier => "IsA"
  | .noIndex => "Digit"
  | .largeIndex => "Map on Result"
  | .noStep => "Char"

def isIdentifierChar (c : Char) : Bool := c.isAlphanum || c == '_' || c == '-' || c == ' '

/-- Spaces and tabs may stand around an index. -/
def skipIndexBlanks (cs : List Char) : List Char := cs.dropWhile fun c => c == ' ' || c == '\t'

def readIndexSign : List Char → Bool × List Char
  | '-' :: cs => (true, cs)
  | cs => (false, cs)

def readIndex (cs : List Char) : Except PathFault (Int × List Char) :=
  let (negative, cs) := readIndexSign (skipIndexBlanks cs)
  let run := cs.takeWhile Char.isDigit
  let n : Int := Text.digitsValue run
  let i := if negative then -n else n
  if run.isEmpty then .error .noIndex
  else if i < -0x8000000000000000 ∨ 0x8000000000000000 ≤ i then .error .largeIndex
  else match skipIndexBlanks (cs.dropWhile Char.isDigit) with
    | ']' :: rest => .ok (i, rest)
    | _ => .error .noStep

/-- The steps that a text spells out to its end, at most `fuel` of them. -/
def readSteps : (fuel : Nat) → List Char → Except PathFault (List Step)
  | _, [] => .ok []
  | 0, _ => .error .noStep
  | fuel + 1, '.' :: cs =>
    let name := cs.takeWhile isIdentifierChar
    if name.isEmpty then .error .noStep
    else do
      let steps ← readSteps fuel (cs.dropWhile isIdentifierChar)
      return .key (String.ofList name) :: steps
  | fuel + 1, '[' :: cs => do
    let (i, rest) ← readIndex cs
    return .index i :: (← readSteps fuel rest)
  | _, _ => .error .noStep

structure KeyPath where
  first : String
  steps : List Step
deriving DecidableEq, Repr

def KeyPath.parse (text : String) : Except PathFault KeyPath := do
  let cs := text.toList
  let first := cs.takeWhile isIdentifierChar
  if first.isEmpty then throw .noIdentifier
  return ⟨String.ofList first, ← readSteps cs.length (cs.dropWhile isIdentifierChar)⟩

end TreeSpec.Settings
