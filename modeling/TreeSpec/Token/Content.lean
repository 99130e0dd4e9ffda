import TreeSpec.Text.Quoted
import TreeSpec.Token

/-!
# Tokens as JSON content

What JSON has to hold to be a token: an object with a depth and possibly the texts, or an
array of the depth and possibly the texts in the order of declaration. This module has the
errors of content that is something else, and the drafts that are filled in while the
content is read.
-/

namespace TreeSpec.Token

open Json

/-- What was found in place of something else. -/
inductive Found where
  | null
  | bool (b : Bool)
  | integer (n : Int)
  | floating (numeral : Numeral)
  | string (s : String)
  | sequence
  | map
deriving DecidableEq

inductive Expected where
  | size
  | string
  | token
deriving DecidableEq, Repr

inductive Member where
  | tabLevel
  | text (field : Field)
deriving DecidableEq, Repr

/-- Why well-formed JSON is no token. -/
inductive ContentError where
  | invalidType (found : Found) (expected : Expected)
  | negative (n : Int)
  | missingTabLevel
  | duplicate (member : Member)
  | emptyArray
  /-- An array has more elements than a token has members. -/
  | longArray (length : Nat)
deriving DecidableEq

namespace Member

/-- The members in the order of declaration. -/
def all : List Member := .tabLevel :: Field.all.map .text

def key : Member → String
  | .tabLevel => tabLevelKey
  | .text field => field.key

def ofKey? (key : String) : Option Member := all.find? fun m => m.key == key

end Member

def Found.text : Found → String
  | .null => "null"
  | .bool b => "boolean `" ++ toString b ++ "`"
  | .integer n => "integer `" ++ toString n ++ "`"
  | .floating n => "floating point `" ++ n.doubleText ++ "`"
  | .string s => "string " ++ Text.quoted s
  | .sequence => "sequence"
  | .map => "map"

def Expected.text : Expected → String
  | .size => "usize"
  | .string => "a string"
  | .token => "struct Token"

def ContentError.message : ContentError → String
  | .invalidType found expected =>
    "invalid type: " ++ found.text ++ ", expected " ++ expected.text
  | .negative n =>
    "invalid value: " ++ (Found.integer n).text ++ ", expected " ++ Expected.size.text
  | .missingTabLevel => "missing field `" ++ Member.tabLevel.key ++ "`"
  | .duplicate member => "duplicate field `" ++ member.key ++ "`"
  | .emptyArray => "invalid length 0, expected struct Token with 7 elements"
  | .longArray length =>
    "invalid length " ++ toString length ++ ", expected fewer elements in array"

/-- A draft of a token: the members that have been read so far. -/
structure Draft where
  tabLevel : Option Size
  text : Field → Option String

namespace Draft

def empty : Draft := ⟨none, fun _ => none⟩

def has (d : Draft) : Member → Bool
  | .tabLevel => d.tabLevel.isSome
  | .text field => (d.text field).isSome

def withTabLevel (d : Draft) (level : Size) : Draft := { d with tabLevel := some level }

def withText (d : Draft) (field : Field) (s : String) : Draft :=
  { d with text := fun f => if f = field then some s else d.text f }

/-- The token of a draft: the texts that are missing are empty, but the depth must not be
missing. -/
def token (d : Draft) : Except ContentError Token :=
  match d.tabLevel with
  | none => .error .missingTabLevel
  | some level => .ok (ofTexts level fun field => (d.text field).getD "")

end Draft

end TreeSpec.Token
