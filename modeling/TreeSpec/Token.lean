import TreeSpec.Expression
import TreeSpec.Json.Value
import TreeSpec.Machine

/-!
# Line tokens

A token is one line of a specification: its depth and six texts. Only the depth is
required; an empty text is unset, and what the texts mean is not decided here.
-/

namespace TreeSpec

/-- One line of a specification. -/
structure Token where
  tabLevel : Size
  pattern : String := ""
  directory : String := ""
  dirtype : String := ""
  name : String := ""
  flags : String := ""
  serialize : String := ""
deriving DecidableEq

namespace Token

inductive Field where
  | pattern
  | directory
  | dirtype
  | name
  | flags
  | serialize
deriving DecidableEq, Repr

/-- The fields in the order in which they are declared. -/
def Field.all : List Field := [.pattern, .directory, .dirtype, .name, .flags, .serialize]

def Field.key : Field → String
  | .pattern => "pattern"
  | .directory => "directory"
  | .dirtype => "dirtype"
  | .name => "name"
  | .flags => "flags"
  | .serialize => "serialize"

def tabLevelKey : String := "tab_level"

def get (t : Token) : Field → String
  | .pattern => t.pattern
  | .directory => t.directory
  | .dirtype => t.dirtype
  | .name => t.name
  | .flags => t.flags
  | .serialize => t.serialize

def set (t : Token) (field : Field) (text : String) : Token :=
  match field with
  | .pattern => { t with pattern := text }
  | .directory => { t with directory := text }
  | .dirtype => { t with dirtype := text }
  | .name => { t with name := text }
  | .flags => { t with flags := text }
  | .serialize => { t with serialize := text }

/-- The token with a given depth and given texts. -/
def ofTexts (tabLevel : Size) (text : Field → String) : Token where
  tabLevel := tabLevel
  pattern := text .pattern
  directory := text .directory
  dirtype := text .dirtype
  name := text .name
  flags := text .flags
  serialize := text .serialize

def ofLevel (tabLevel : Size) : Token := { tabLevel }

/-- The token whose depth is an integer, given the size that the integer has been converted to. One
that is no size is refused with its text. -/
def ofConverted (tabLevel : Int) : Option Size → Except ReaderError Token
  | some level => .ok (ofLevel level)
  | none => .error (.invalidArgument tabLevelKey (String.ofList (Text.decimalInt tabLevel)))

def ofInt (tabLevel : Int) : Except ReaderError Token :=
  ofConverted tabLevel (Size.ofInt? tabLevel)

def ofMachine (τ : IntegerType) (depth : τ.Bits) : Except ReaderError Token :=
  ofConverted (τ.value depth) (τ.toSize? depth)

def nameExpression (t : Token) : Except ReaderError Expression := Expression.parse t.name

/-- The depth and all texts on one line, for people. -/
def describe (t : Token) : String :=
  "Token(tab_level=" ++ toString t.tabLevel.toNat ++
    String.join (Field.all.map fun f => "," ++ f.key ++ "=" ++ t.get f) ++ ")"

def sizeInteger (s : Size) : Json.Integer where
  val := s.toNat
  lower := by omega
  upper := by have := Size.toNat_le s; omega

/-- The JSON object of a token, with its fields in the order of declaration. -/
def toValue (t : Token) : Json.Value :=
  .object ((tabLevelKey, .number (.integer (sizeInteger t.tabLevel))) ::
    Field.all.map fun f => (f.key, .string (t.get f)))

def text (t : Token) : String := String.ofList t.toValue.text

theorem get_ofTexts (level : Size) (text : Field → String) (f : Field) :
    (ofTexts level text).get f = text f := by
  cases f <;> rfl

theorem get_set (t : Token) (f g : Field) (text : String) :
    (t.set f text).get g = if g = f then text else t.get g := by
  cases f <;> cases g <;> rfl

theorem ofTexts_get (t : Token) : ofTexts t.tabLevel t.get = t := rfl

end Token

end TreeSpec
