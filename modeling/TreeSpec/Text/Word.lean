import TreeSpec.Text.WordTable

/-!
# Word characters

Names of variables are made of word characters: letters of any script, marks, decimal
digits, the underscore and its relatives, and the two joiners.
-/

namespace TreeSpec.Text

/-- Whether a character may stand in a name. Among the ASCII characters these are the
letters, the digits and the underscore; the others are looked up. -/
def isWordChar (c : Char) : Bool :=
  if c.toNat < 0x80 then c.isAlphanum || c == '_' else inRanges wordRanges c

theorem isWordChar_openBracket : isWordChar '[' = false := by decide

end TreeSpec.Text
