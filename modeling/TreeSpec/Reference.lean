import TreeSpec.Text.Word

/-!
# References as they are written

A reference is a name, alone or followed by a subscript in brackets: an index, or a slice
of up to three bounds with colons between them. This module keeps every run of digits as
it was written, so that reading and writing are inverse to each other.
-/

namespace TreeSpec

open Text

namespace Reference

/-- What stands between the brackets of a reference. A bound of a slice may be missing,
which leaves its run empty; the step is `none` when the second colon is missing too. -/
inductive Subscript where
  | index (run : List Char)
  | slice (start stop : List Char) (step : Option (List Char))
deriving DecidableEq, Repr

end Reference

/-- A reference as it is written. -/
structure Reference where
  name : List Char
  subscript : Option Reference.Subscript
deriving DecidableEq, Repr

namespace Reference

namespace Subscript

def text : Subscript → List Char
  | .index run => run ++ [']']
  | .slice start stop none => start ++ ':' :: (stop ++ [']'])
  | .slice start stop (some step) => start ++ ':' :: (stop ++ ':' :: (step ++ [']']))

/-- The subscript that a text spells out up to and including the closing bracket. -/
def parse? (cs : List Char) : Option Subscript :=
  let first := cs.takeWhile Char.isDigit
  match cs.dropWhile Char.isDigit with
  | [']'] => if first.isEmpty then none else some (.index first)
  | ':' :: cs =>
    let second := cs.takeWhile Char.isDigit
    match cs.dropWhile Char.isDigit with
    | [']'] => some (.slice first second none)
    | ':' :: cs =>
      let third := cs.takeWhile Char.isDigit
      match cs.dropWhile Char.isDigit with
      | [']'] => some (.slice first second (some third))
      | _ => none
    | _ => none
  | _ => none

end Subscript

def text (r : Reference) : List Char :=
  match r.subscript with
  | none => r.name
  | some s => r.name ++ '[' :: s.text

def parse? (cs : List Char) : Option Reference :=
  let name := cs.takeWhile isWordChar
  if name.isEmpty then none
  else match cs.dropWhile isWordChar with
    | [] => some ⟨name, none⟩
    | '[' :: cs => (Subscript.parse? cs).map fun s => ⟨name, some s⟩
    | _ => none

end Reference

end TreeSpec
