import TreeSpec.Json.Number
import TreeSpec.Json.Written

/-!
# JSON values

The value that a JSON text denotes, and the compact text of a value. The members of an
object are kept in the order in which they are written, repeated keys included; the last
member with a key counts.
-/

namespace TreeSpec.Json

inductive Value where
  | null
  | bool (b : Bool)
  | number (n : Number)
  | string (s : String)
  | array (elements : List Value)
  | object (members : List (String × Value))

mutual

/-- Whether two values have the same parts. -/
def Value.same : Value → Value → Bool
  | .null, .null => true
  | .bool b, .bool c => b == c
  | .number m, .number n => m == n
  | .string s, .string t => s == t
  | .array xs, .array ys => sameElements xs ys
  | .object xs, .object ys => sameMembers xs ys
  | _, _ => false

def sameElements : List Value → List Value → Bool
  | [], [] => true
  | v :: xs, w :: ys => v.same w && sameElements xs ys
  | _, _ => false

def sameMembers : List (String × Value) → List (String × Value) → Bool
  | [], [] => true
  | (key, v) :: xs, (key', w) :: ys => key == key' && v.same w && sameMembers xs ys
  | _, _ => false

end

mutual

theorem Value.same_iff (v w : Value) : v.same w = true ↔ v = w := by
  cases v with
  | array xs => cases w <;> simp [Value.same, sameElements_iff xs]
  | object xs => cases w <;> simp [Value.same, sameMembers_iff xs]
  | _ => cases w <;> simp [Value.same]

theorem sameElements_iff (xs ys : List Value) : sameElements xs ys = true ↔ xs = ys := by
  cases xs with
  | nil => cases ys <;> simp [sameElements]
  | cons v xs => cases ys <;> simp [sameElements, Value.same_iff v, sameElements_iff xs]

theorem sameMembers_iff (xs ys : List (String × Value)) : sameMembers xs ys = true ↔ xs = ys := by
  match xs with
  | [] => cases ys <;> simp [sameMembers]
  | (key, v) :: xs =>
    cases ys <;> simp [sameMembers, Value.same_iff v, sameMembers_iff xs, Prod.ext_iff]

end

instance : DecidableEq Value := fun v w => decidable_of_iff _ (Value.same_iff v w)

/-- The last of the members with a given key. -/
def member? (members : List (String × α)) (key : String) : Option α :=
  members.reverse.lookup key

mutual

/-- The value of what is written, unless one of its strings has no characters. -/
def Written.value? : Written → Option Value
  | .null => some .null
  | .bool b => some (.bool b)
  | .number n => some (.number n.number)
  | .string pieces => (decodePieces pieces).map fun s => .string (String.ofList s)
  | .array elements => (elementValues? elements).map .array
  | .object members => (memberValues? members).map .object

def elementValues? : List Written → Option (List Value)
  | [] => some []
  | w :: rest =>
    match w.value?, elementValues? rest with
    | some v, some values => some (v :: values)
    | _, _ => none

def memberValues? : List (List Piece × Written) → Option (List (String × Value))
  | [] => some []
  | (key, w) :: rest =>
    match decodePieces key, w.value?, memberValues? rest with
    | some key, some v, some values => some ((String.ofList key, v) :: values)
    | _, _, _ => none

end

def Value.parse? (cs : List Char) : Option Value :=
  match Written.parse cs with
  | .ok w => w.value?
  | .error _ => none

def hexDigit (n : Nat) : Char := Nat.digitChar n

/-- A character as it stands in a string: quotes, backslashes and control characters are
escaped, all others stand for themselves. -/
def escapeChar (c : Char) : List Char :=
  if c = '"' then ['\\', '"']
  else if c = '\\' then ['\\', '\\']
  else if c = '\x08' then ['\\', 'b']
  else if c = '\x0c' then ['\\', 'f']
  else if c = '\n' then ['\\', 'n']
  else if c = '\r' then ['\\', 'r']
  else if c = '\t' then ['\\', 't']
  else if c < ' ' then ['\\', 'u', '0', '0', hexDigit (c.toNat / 16), hexDigit (c.toNat % 16)]
  else [c]

def stringText (s : String) : List Char :=
  '"' :: (s.toList.flatMap escapeChar ++ ['"'])

mutual

/-- The compact text of a value. -/
def Value.text : Value → List Char
  | .null => "null".toList
  | .bool true => "true".toList
  | .bool false => "false".toList
  | .number n => n.text
  | .string s => stringText s
  | .array elements => '[' :: (elementsText elements ++ [']'])
  | .object members => '\x7b' :: (membersText members ++ ['\x7d'])

def elementsText : List Value → List Char
  | [] => []
  | [v] => v.text
  | v :: rest => v.text ++ ',' :: elementsText rest

def membersText : List (String × Value) → List Char
  | [] => []
  | [(key, v)] => stringText key ++ ':' :: v.text
  | (key, v) :: rest => stringText key ++ ':' :: (v.text ++ ',' :: membersText rest)

end

end TreeSpec.Json
