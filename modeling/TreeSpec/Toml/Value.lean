import TreeSpec.Toml.Moment

/-!
# Values of TOML

The values that a TOML document holds. A document is a table.
-/

namespace TreeSpec.Toml

inductive Value where
  | string (s : String)
  | integer (n : Int)
  | float (x : Float)
  | boolean (b : Bool)
  | moment (m : Moment)
  | array (elements : List Value)
  | table (entries : List (String × Value))

/-- A table: its keys with their values, in the order of the document. -/
abbrev Table := List (String × Value)

end TreeSpec.Toml
