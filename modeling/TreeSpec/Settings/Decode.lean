import TreeSpec.Numeric.Layout
import TreeSpec.Settings
import TreeSpec.Settings.Tree
import TreeSpec.Text.Quoted

/-!
# Settings from trees

What a merged tree has to hold: a table `resolver` with both fields, or an array of the
two. Values are taken generously: numbers and a few words count as truth values, and truth
values, rounded floats and texts of digits as numbers. The fields of a table are read in the order
of the table, and the first one of a wrong type is reported.
-/

namespace TreeSpec.Settings

/-- Why a tree does not hold settings. -/
inductive ShapeError where
  /-- The value of `resolver` is neither a table nor an array. -/
  | notSettings (found : Scalar)
  | missing (field : String)
  | shortArray (length : Nat)
  | wrongType (found expected key : String) (origin : Option String)

/-- Floats are written without an exponent. -/
def floatLayout : Numeric.Layout where
  positional := none
  plus := false
  tie := .up
  nan := "NaN"
  infinity := "inf"

def Scalar.text : Scalar → String
  | .nil => "unit value"
  | .boolean b => "boolean `" ++ toString b ++ "`"
  | .integer .wideSigned n => "integer `" ++ toString n ++ "` as i128"
  | .integer .wideUnsigned n => "integer `" ++ toString n ++ "` as u128"
  | .integer _ n => "integer `" ++ toString n ++ "`"
  | .float x => "floating point `" ++ floatLayout.text x ++ "`"
  | .string s => "string " ++ Text.quoted s

def IntegerKind.text : IntegerKind → String
  | .signed => "64-bit integer"
  | .unsigned => "64-bit unsigned integer"
  | .wideSigned => "128-bit integer"
  | .wideUnsigned => "128-bit unsigned integer"

def ShapeError.message : ShapeError → String
  | .notSettings found =>
    "invalid type: " ++ found.text ++ ", expected struct ResolverConfig"
  | .missing field => "missing field `" ++ field ++ "`"
  | .shortArray length =>
    "invalid length " ++ toString length ++ ", expected struct ResolverConfig with 2 elements"
  | .wrongType found expected key origin =>
    "invalid type: " ++ found ++ ", expected " ++ expected ++ " for key `" ++ key ++ "`" ++
      (origin.map (" in " ++ ·)).getD ""

def truthWord? (word : String) : Option Bool :=
  if word = "true" ∨ word = "on" ∨ word = "yes" then some true
  else if word = "false" ∨ word = "off" ∨ word = "no" then some false
  else none

/-- The number that a text of digits stands for, with an optional plus. -/
def digitsSize? (s : String) : Option Size :=
  let run :=
    match s.toList with
    | '+' :: cs => cs
    | cs => cs
  if !run.isEmpty && run.all Char.isDigit then Size.ofNat? (Text.digitsValue run) else none

def Tree.boolean : Tree → Except String Bool
  | .scalar _ (.boolean b) => .ok b
  | .scalar _ (.integer _ n) => .ok (n != 0)
  | .scalar _ (.float x) => .ok (x != 0)
  | .scalar _ (.string s) =>
    let word := Text.lowercase s
    if word = "1" then .ok true
    else if word = "0" then .ok false
    else match truthWord? word with
      | some b => .ok b
      | none => .error (Scalar.string word).text
  | .scalar _ .nil => .error Scalar.nil.text
  | .array .. => .error "sequence"
  | .table .. => .error "map"

/-- The size that a tree stands for, or what it is and what it should be instead. -/
def Tree.size : Tree → Except (String × String) Size
  | .scalar _ (.boolean b) => .ok (if b then 1 else 0)
  | .scalar _ (.integer kind n) =>
    match Size.ofInt? n with
    | some s => .ok s
    | none =>
      .error (kind.text ++ " `" ++ toString n ++ "`", "an unsigned 64 bit or less integer")
  | .scalar _ (.float x) => .ok x.round.toUInt64
  | .scalar _ (.string s) =>
    match truthWord? (Text.lowercase s) with
    | some b => .ok (if b then 1 else 0)
    | none =>
      match digitsSize? s with
      | some n => .ok n
      | none => .error ((Scalar.string s).text, "an integer")
  | .scalar _ .nil => .error (Scalar.nil.text, "an integer")
  | .array .. => .error ("sequence", "an integer")
  | .table .. => .error ("map", "an integer")

def Tree.origin : Tree → Option String
  | .scalar origin _ => origin
  | .array origin _ => origin
  | .table origin _ => origin

def decodeBoolean (key : String) (t : Tree) : Except ShapeError Bool :=
  t.boolean.mapError fun found => .wrongType found "a boolean" key t.origin

def decodeSize (key : String) (t : Tree) : Except ShapeError Size :=
  t.size.mapError fun (found, expected) => .wrongType found expected key t.origin

def tableKey : String := "resolver"

inductive Knob where
  | traceMatches
  | maxKnownNames
deriving DecidableEq, Repr

namespace Knob

abbrev Value : Knob → Type
  | .traceMatches => Bool
  | .maxKnownNames => Size

def key : Knob → String
  | .traceMatches => "trace_matches"
  | .maxKnownNames => "max_known_names"

def ofKey? (key : String) : Option Knob := [traceMatches, maxKnownNames].find? (·.key == key)

/-- The value of a field at a place that errors name. -/
def decode : (k : Knob) → (place : String) → Tree → Except ShapeError k.Value
  | .traceMatches => decodeBoolean
  | .maxKnownNames => decodeSize

end Knob

/-- The fields that have been found in a table. -/
structure Fields where
  traceMatches : Option Bool := none
  maxKnownNames : Option Size := none

namespace Fields

def put (fields : Fields) : (k : Knob) → k.Value → Fields
  | .traceMatches, b => { fields with traceMatches := some b }
  | .maxKnownNames, n => { fields with maxKnownNames := some n }

/-- The fields with one more entry of the table read. Other keys do not count. -/
def read (fields : Fields) (e : String × Tree) : Except ShapeError Fields :=
  match Knob.ofKey? e.1 with
  | none => .ok fields
  | some k => (k.decode (tableKey ++ "." ++ e.1) e.2).map (fields.put k)

def settings : Fields → Except ShapeError Settings
  | ⟨some traceMatches, some maxKnownNames⟩ => .ok { traceMatches, maxKnownNames }
  | ⟨none, _⟩ => .error (.missing Knob.traceMatches.key)
  | ⟨_, none⟩ => .error (.missing Knob.maxKnownNames.key)

end Fields

/-- The settings that a value holds. Wrong types are found before missing fields. -/
def decodeResolver (order : Order) : Tree → Except ShapeError Settings
  | .scalar _ found => .error (.notSettings found)
  | .array _ (first :: second :: _) => do
    let traceMatches ← decodeBoolean (tableKey ++ "[0]") first
    let maxKnownNames ← decodeSize (tableKey ++ "[1]") second
    return { traceMatches, maxKnownNames }
  | .array _ [first] => do
    let _ ← decodeBoolean (tableKey ++ "[0]") first
    throw (.shortArray 1)
  | .array _ [] => .error (.shortArray 0)
  | .table _ entries => do
    let fields ← (order.arrange [] entries).foldlM Fields.read {}
    fields.settings

def decode (order : Order) (t : Tree) : Except ShapeError Settings :=
  match t.entry? tableKey with
  | some t => decodeResolver order t
  | none => .error (.missing tableKey)

end TreeSpec.Settings
