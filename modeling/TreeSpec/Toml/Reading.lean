import TreeSpec.Toml.Number
import TreeSpec.Toml.Table

/-!
# Reading values of TOML

A value is a string, a number, a truth value, a moment, an array, or a table on one line.
Arrays and such tables may be nested only so deep; arrays may go over several lines.
-/

namespace TreeSpec.Toml

def readWord (word : List Char) (v : Value) (cs : List Char) : Option (Read Value) :=
  if word.isPrefixOf cs then some (v, cs.drop word.length) else none

/-- A moment, a float or an integer, whichever of them comes first in this order. -/
def readNumeral (cs : List Char) : Option (Read Value) :=
  ((readMoment .clock cs).map fun (m, rest) => (.moment m, rest)) <|>
  ((readFloat cs).map fun (x, rest) => (.float x, rest)) <|>
  ((readInteger cs).map fun (n, rest) => (.integer n, rest))

/-- Items that `readItem` reads, with commas between them, as far as there are any; at
most `fuel` of them. What follows the last item or comma is left. -/
def readItems (readItem : List Char → Option (Read α)) :
    (fuel : Nat) → List Char → List α × List Char
  | 0, cs => ([], cs)
  | fuel + 1, cs =>
    match readItem cs with
    | none => ([], cs)
    | some (a, rest) =>
      match rest with
      | ',' :: rest' =>
        let (items, left) := readItems readItem fuel rest'
        if items.isEmpty then ([a], rest) else (a :: items, left)
      | _ => ([a], rest)

def readElement (readValue : List Char → Option (Read Value)) (cs : List Char) :
    Option (Read Value) := do
  let (v, rest) ← readValue (← skipLines cs)
  return (v, ← skipLines rest)

/-- The elements of an array and its closing bracket. A comma may follow the last one. -/
def readArray (readValue : List Char → Option (Read Value)) (cs : List Char) :
    Option (Read Value) := do
  let (elements, rest) := readItems (readElement readValue) cs.length cs
  let rest :=
    match rest with
    | ',' :: rest' => if elements.isEmpty then rest else rest'
    | _ => rest
  match ← skipLines rest with
  | ']' :: rest => return (.array elements, rest)
  | _ => none

def readPair (readValue : List Char → Option (Read Value)) (cs : List Char) :
    Option (Read (List String × String × Value)) := do
  let ((path, key), rest) ← readKey cs
  match rest with
  | '=' :: rest =>
    let (v, rest) ← readValue (skipBlanks rest)
    return ((path, key, v), skipBlanks rest)
  | _ => none

def readInlineTable (readValue : List Char → Option (Read Value)) (cs : List Char) :
    Option (Read Value) := do
  let (pairs, rest) := readItems (readPair readValue) cs.length cs
  match skipBlanks rest with
  | '\x7d' :: rest =>
    let t ← pairs.foldlM (fun t (path, key, v) => t.addValue path key v) OpenTable.empty
    return (.table (entriesToTable t.entries), rest)
  | _ => none

/-- The value that starts here, with at most `depth` arrays and tables around another. -/
def readValue (depth : Nat) (cs : List Char) : Option (Read Value) :=
  match cs with
  | '[' :: rest =>
    match depth with
    | 0 => none
    | depth + 1 => readArray (readValue depth) rest
  | '\x7b' :: rest =>
    match depth with
    | 0 => none
    | depth + 1 => readInlineTable (readValue depth) rest
  | '"' :: _ => (readString cs).map fun (s, rest) => (.string s, rest)
  | '\'' :: _ => (readString cs).map fun (s, rest) => (.string s, rest)
  | 't' :: _ => readWord "true".toList (.boolean true) cs
  | 'f' :: _ => readWord "false".toList (.boolean false) cs
  | cs => readNumeral cs
termination_by structural depth

end TreeSpec.Toml
