import TreeSpec.Token.Content

/-!
# Tokens from JSON values

Reading a token from a finished JSON value. The members of an object are checked in the
order of their keys, whatever order they are written in, and members that a token does not
have are passed over.
-/

namespace TreeSpec.Token

open Json

/-- How a value is called when something else was asked for. -/
def Found.ofValue : Value → Found
  | .null => .null
  | .bool b => .bool b
  | .number (.integer n) => .integer n.val
  | .number (.floating n) => .floating n
  | .string s => .string s
  | .array _ => .sequence
  | .object _ => .map

/-- The depth that a number gives: an integer that is a size. -/
def levelOfNumber : Number → Except ContentError Size
  | .integer n =>
    match Size.ofInt? n.val with
    | some level => .ok level
    | none => .error (.negative n.val)
  | .floating n => .error (.invalidType (.floating n) .size)

namespace Draft

def readValue (d : Draft) (member : Member) (value : Value) : Except ContentError Draft :=
  match member, value with
  | .tabLevel, .number n => (levelOfNumber n).map d.withTabLevel
  | .tabLevel, value => .error (.invalidType (Found.ofValue value) .size)
  | .text field, .string s => .ok (d.withText field s)
  | .text _, value => .error (.invalidType (Found.ofValue value) .string)

def readValues (d : Draft) : List (Member × Value) → Except ContentError Draft
  | [] => .ok d
  | (member, value) :: rest =>
    match d.readValue member value with
    | .error e => .error e
    | .ok d => d.readValues rest

end Draft

/-- The members in the order of their keys by code point. -/
def Member.byKey : List Member :=
  [.text .directory, .text .dirtype, .text .flags, .text .name, .text .pattern,
    .text .serialize, .tabLevel]

def ofValue : Value → Except ContentError Token
  | .object members =>
    let present := Member.byKey.filterMap fun m => (member? members m.key).map (m, ·)
    match Draft.empty.readValues present with
    | .error e => .error e
    | .ok d => d.token
  | .array elements =>
    match Draft.empty.readValues (Member.all.zip elements) with
    | .error e => .error e
    | .ok d =>
      if elements.isEmpty then .error .emptyArray
      else if Member.all.length < elements.length then .error (.longArray elements.length)
      else d.token
  | value => .error (.invalidType (Found.ofValue value) .token)

end TreeSpec.Token
