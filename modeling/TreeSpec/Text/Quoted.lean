import TreeSpec.Text.ExtenderTable
import TreeSpec.Text.UnprintableTable

/-!
# Quoted texts

A text between double quotes, as messages show it. Quotes, backslashes and the common
control characters have short escapes; characters that would not show, or that would
attach to the one before them, are written by their code points.
-/

namespace TreeSpec.Text

/-- Whether a character shows by itself. -/
def isPrintable (c : Char) : Bool :=
  if c.toNat < 0x80 then ' ' ≤ c && c.toNat < 0x7F
  else !inRanges unprintableRanges c && !inRanges extenderRanges c

def codePoint (c : Char) : List Char :=
  '\\' :: 'u' :: '\x7b' :: (Nat.toDigits 16 c.toNat ++ ['\x7d'])

/-- A character as it stands between quotes. -/
def quoteChar (c : Char) : List Char :=
  if c = '\x00' then ['\\', '0']
  else if c = '\t' then ['\\', 't']
  else if c = '\r' then ['\\', 'r']
  else if c = '\n' then ['\\', 'n']
  else if c = '\\' then ['\\', '\\']
  else if c = '"' then ['\\', '"']
  else if isPrintable c then [c]
  else codePoint c

def quoted (s : String) : String :=
  String.ofList ('"' :: (s.toList.flatMap quoteChar ++ ['"']))

end TreeSpec.Text
