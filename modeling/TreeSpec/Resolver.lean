import TreeSpec.Cluster
import TreeSpec.Event
import TreeSpec.Namespace
import TreeSpec.Settings

/-!
# Resolving references

A reference is resolved in a namespace to a name and the selected part of the value bound
to it. The checks come in a fixed order: the text has to be an expression, its name has to
be bound, and the bound value has to be a sequence.
-/

namespace TreeSpec

/-- A name and the selected elements of its value, in their order. -/
structure Resolution (α : Type u) where
  name : String
  selection : List α

structure Logged (α : Type u) where
  answer : Except ReaderError α
  events : List Event

/-- The names that an error lists: the first ones by code point, as many as the settings
allow. -/
def Settings.knownNames (settings : Settings) (ns : Namespace γ) : List String :=
  ns.sortedNames.take settings.maxKnownNames.toNat

def Logged.mismatch [Cluster γ α] (name : String) (value : γ) : Logged β where
  answer := .error (.typeMismatch name (Cluster.kind value))
  events := [.cannotBeSliced name (Cluster.kind value)]

/-- The part of a namespace that an expression denotes. The value has to have a length, from
which the missing bounds follow, and then a slice. -/
def Settings.resolveExpression [Cluster γ α] (settings : Settings) (e : Expression)
    (ns : Namespace γ) : Logged (Resolution α) :=
  match ns.lookup e.name with
  | none =>
    let known := settings.knownNames ns
    { answer := .error (.unknownVariable e.name known)
      events := [.unknownVariable e.name known.length] }
  | some value =>
    match Cluster.length? value with
    | none => .mismatch e.name value
    | some length =>
      match Cluster.slice? value (e.bounds (Size.clamp length)) with
      | none => .mismatch e.name value
      | some selection => { answer := .ok ⟨e.name, selection⟩, events := [] }

def Settings.resolve [Cluster γ α] (settings : Settings) (text : String) (ns : Namespace γ) :
    Logged (Resolution α) :=
  match Expression.parse text with
  | .error e => { answer := .error e, events := [] }
  | .ok e =>
    let resolved := settings.resolveExpression e ns
    let matched := if settings.traceMatches then [Event.expressionMatched e] else []
    { resolved with events := matched ++ resolved.events }

end TreeSpec
