import TreeSpec.Expression

/-!
# Log events

What a resolver reports besides its answer. An event has a level, a message and fields
with a text each.
-/

namespace TreeSpec

inductive Level where
  | trace
  | debug
deriving DecidableEq, Repr

def Level.text : Level → String
  | .trace => "TRACE"
  | .debug => "DEBUG"

/-- Something that happened while a reference was resolved. -/
inductive Event where
  | expressionMatched (expression : Expression)
  /-- A name is not bound; `known` names were given in the answer. -/
  | unknownVariable (name : String) (known : Nat)
  | cannotBeSliced (name found : String)
deriving DecidableEq

namespace Event

/-- The level of an event: only matches are traced. -/
def level : Event → Level
  | .expressionMatched _ => .trace
  | _ => .debug

def message : Event → String
  | .expressionMatched _ => "expression matched"
  | .unknownVariable .. => "unknown variable"
  | .cannotBeSliced .. => "bound value cannot be sliced"

def boundText : Option Size → String
  | none => "None"
  | some bound => "Some(" ++ toString bound.toNat ++ ")"

def fields : Event → List (String × String)
  | .expressionMatched e =>
    [("form", e.form.text), ("name", e.name), ("start", boundText e.start),
      ("stop", boundText e.stop), ("step", boundText (e.step.map Step.size))]
  | .unknownVariable name known => [("name", name), ("known", toString known)]
  | .cannotBeSliced name found => [("name", name), ("found", found)]

end Event

end TreeSpec
