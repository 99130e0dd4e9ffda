import TreeSpec.Error
import TreeSpec.Range
import TreeSpec.Reference
import TreeSpec.Text.Digits

/-!
# Variable expressions

What a reference means: the name of a variable and the part of its value that is asked
for. Runs of digits have become sizes, so that two spellings of one bound are one
expression, and an expression has one text of its own.
-/

namespace TreeSpec

open Text

inductive Form where
  | bare
  | slice
  | index
deriving DecidableEq, Repr

def Form.text : Form → String
  | .bare => "bare"
  | .slice => "slice"
  | .index => "index"

namespace Expression

/-- The part of a value that an expression asks for: all of it, one element, or a slice
whose missing bounds follow the length of the value. -/
inductive Subscript where
  | all
  | index (position : Size)
  | slice (start stop : Option Size) (step : Option Step)
deriving DecidableEq

end Expression

/-- A variable and the part of its value that is asked for. -/
structure Expression where
  name : String
  subscript : Expression.Subscript
deriving DecidableEq

namespace Expression

def form (e : Expression) : Form :=
  match e.subscript with
  | .all => .bare
  | .index _ => .index
  | .slice .. => .slice

def start (e : Expression) : Option Size :=
  match e.subscript with
  | .all => none
  | .index i => some i
  | .slice start _ _ => start

/-- The position to stop before, if the expression gives one. An index stops one further
on, or at the largest size. -/
def stop (e : Expression) : Option Size :=
  match e.subscript with
  | .all => none
  | .index i => some (Size.clamp (i.toNat + 1))
  | .slice _ stop _ => stop

def step (e : Expression) : Option Step :=
  match e.subscript with
  | .all => none
  | .index _ => none
  | .slice _ _ step => step

/-- The range that the expression selects in a sequence of `length` elements: missing
bounds are the start, the length and a step of one. -/
def bounds (e : Expression) (length : Size) : Range where
  start := e.start.getD 0
  stop := e.stop.getD length
  step := e.step.getD .one

def boundText : Option Size → List Char
  | none => []
  | some s => decimal s.toNat

/-- The reference that writes an expression in the plainest way. -/
def toReference (e : Expression) : Reference where
  name := e.name.toList
  subscript :=
    match e.subscript with
    | .all => none
    | .index i => some (.index (decimal i.toNat))
    | .slice start stop step =>
      some (.slice (boundText start) (boundText stop) (step.map fun s => decimal s.size.toNat))

def text (e : Expression) : String := String.ofList e.toReference.text

/-- The size that a run of digits stands for; a run that is too large for a size stands
for the largest one, and an empty run for none. -/
def bound? (run : List Char) : Option Size :=
  if run.isEmpty then none else some (Size.clamp (digitsValue run))

/-- The step that a run of digits stands for, unless it is a step of zero. -/
def step? (run : List Char) : Option (Option Step) :=
  match bound? run with
  | none => some none
  | some s => (Step.ofSize? s).map some

def Subscript.ofReference? : Reference.Subscript → Option Subscript
  | .index run => some (.index (Size.clamp (digitsValue run)))
  | .slice start stop step =>
    (step? (step.getD [])).map fun step => .slice (bound? start) (bound? stop) step

/-- The meaning of a reference, unless its step is zero. -/
def ofReference? (r : Reference) : Option Expression :=
  match r.subscript with
  | none => some ⟨String.ofList r.name, .all⟩
  | some s => (Subscript.ofReference? s).map fun s => ⟨String.ofList r.name, s⟩

def noForm : String := "expected `name`, `name[index]` or `name[start:stop:step]`"

def zeroStep : String := "slice step cannot be zero"

def parse (text : String) : Except ReaderError Expression :=
  match Reference.parse? text.toList with
  | none => .error (.invalidExpression text noForm)
  | some r =>
    match ofReference? r with
    | none => .error (.invalidExpression text zeroStep)
    | some e => .ok e

end Expression

end TreeSpec
