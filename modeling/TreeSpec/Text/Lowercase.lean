import TreeSpec.Text.CapitalTable
import TreeSpec.Text.CasedTable

/-!
# Lower case

The lower-case form of a text, letter by letter. Only two letters need more than the table:
the dotted capital I becomes two characters, and the form of a sigma depends on whether it
ends a word.
-/

namespace TreeSpec.Text

def lowerChar (c : Char) : List Char :=
  if c.toNat < 0x80 then [c.toLower]
  else if c = '\u0130' then ['i', '\u0307']
  else match capitalRuns.find? fun run => run.contains c.toNat with
    | some run => [Char.ofNat (c.toNat + run.shift).toNat]
    | none => [c]

/-- Whether the first character that counts is a letter with a case. -/
def startsCased (cs : List Char) : Bool :=
  ((cs.dropWhile (inRanges caseIgnorableRanges)).head?.map (inRanges casedRanges)).getD false

/-- The lower-case form of a text, given the characters before it in reverse. A sigma ends
a word when a letter comes before it and none after it. -/
def lowerFrom (before : List Char) : List Char → List Char
  | [] => []
  | c :: rest =>
    let lowered :=
      if c = 'Σ' then if startsCased before && !startsCased rest then ['ς'] else ['σ']
      else lowerChar c
    lowered ++ lowerFrom (c :: before) rest

def lowercase (s : String) : String := String.ofList (lowerFrom [] s.toList)

end TreeSpec.Text
