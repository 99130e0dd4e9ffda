import TreeSpec.Deque
import TreeSpec.Json.Value
import TreeSpec.Range

/-!
# Clusters

The values that variables are bound to. All that is asked of a value is what it is called
in a message, how many elements it has and which of them a range selects; lists and queues
have elements, and among the JSON values only the arrays. Length and slices have to follow
from the elements alone, so that a value is either a sequence for both of them or for none,
and clusters with the same elements cannot be told apart by slicing.
-/

namespace TreeSpec

/-- A type of values that can be bound to a variable. -/
class Cluster (γ : Type u) (α : outParam (Type v)) where
  /-- What a value is called in a message. -/
  kind : γ → String
  /-- The number of elements, if the value is a sequence. -/
  length? : γ → Option Nat
  slice? : γ → Range → Option (List α)
  /-- A sequence with one more element at its end; any other value stays as it is. -/
  append : γ → α → γ
  prepend : γ → α → γ
  elements? : γ → Option (List α)
  length?_eq (value : γ) : length? value = (elements? value).map List.length
  slice?_eq (value : γ) (range : Range) : slice? value range = (elements? value).map range.select

instance : Cluster (List α) α where
  kind _ := "a list"
  length? xs := some xs.length
  slice? xs range := some (range.select xs)
  append xs x := xs ++ [x]
  prepend xs x := x :: xs
  elements? xs := some xs
  length?_eq _ := rfl
  slice?_eq _ _ := rfl

instance : Cluster (Deque α) α where
  kind _ := "a deque"
  length? q := some q.length
  slice? q range := some (range.select q.toList)
  append := Deque.pushBack
  prepend := Deque.pushFront
  elements? q := some q.toList
  length?_eq q := by rw [Option.map_some, Deque.length_toList]
  slice?_eq _ _ := rfl

namespace Json.Value

def kind : Value → String
  | .null => "null"
  | .bool _ => "a JSON boolean"
  | .number _ => "a JSON number"
  | .string _ => "a JSON string"
  | .array _ => "a JSON array"
  | .object _ => "a JSON object"

def elements? : Value → Option (List Value)
  | .array elements => some elements
  | _ => none

def mapElements (f : List Value → List Value) : Value → Value
  | .array elements => .array (f elements)
  | v => v

end Json.Value

instance : Cluster Json.Value Json.Value where
  kind := Json.Value.kind
  length? value := value.elements?.map List.length
  slice? value range := value.elements?.map range.select
  append value x := value.mapElements (· ++ [x])
  prepend value x := value.mapElements (x :: ·)
  elements? := Json.Value.elements?
  length?_eq _ := rfl
  slice?_eq _ _ := rfl

end TreeSpec
