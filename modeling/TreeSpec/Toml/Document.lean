import TreeSpec.Toml.Reading
import TreeSpec.Toml.Tagged

/-!
# Documents of TOML

A document is a sequence of lines: headers, which say to what table the following lines
belong, pairs of a key and a value, and lines without either.
-/

namespace TreeSpec.Toml

inductive Line where
  | blank
  | pair (path : List String) (key : String) (v : Value)
  | header (path : List String) (key : String)
  | elementHeader (path : List String) (key : String)

/-- A header up to the end of its line, from behind its opening brackets on. -/
def readHeader (close : List Char) (line : List String → String → Line) (cs : List Char) :
    Option (Read Line) := do
  let ((path, key), rest) ← readKey cs
  if close.isPrefixOf rest then return (line path key, ← endLine? (rest.drop close.length))
  else none

def readLine (cs : List Char) : Option (Read Line) :=
  match cs with
  | '#' :: _ => (endLine? cs).map (.blank, ·)
  | '\n' :: _ => (nextLine? cs).map (.blank, ·)
  | '\r' :: _ => (nextLine? cs).map (.blank, ·)
  | '[' :: '[' :: rest => readHeader [']', ']'] .elementHeader rest
  | '[' :: rest => readHeader [']'] .header rest
  | cs => do
    let ((path, key, v), rest) ← readPair (readValue depthLimit) cs
    return (.pair path key v, ← endLine? rest)

/-- The lines of a document, at most `fuel` of them. -/
def readLines : (fuel : Nat) → List Char → Option (List Line)
  | 0, cs => if cs.isEmpty then some [] else none
  | fuel + 1, cs =>
    match skipBlanks cs with
    | [] => some []
    | rest => do
      let (line, rest) ← readLine rest
      return line :: (← readLines fuel rest)

/-- A document while it is read: its table, and the header to which the lines belong. -/
structure Draft where
  root : OpenTable
  current : List String

def OpenTable.addBelow (current path : List String) (key : String) (v : Value) :
    OpenTable → Option OpenTable :=
  change false (addValue path key v) current

def Draft.add (d : Draft) : Line → Option Draft
  | .blank => some d
  | .pair path key v => do
    return { d with root := ← d.root.addBelow d.current path key v }
  | .header path key => do
    return { root := ← d.root.openTable path key, current := path ++ [key] }
  | .elementHeader path key => do
    return { root := ← d.root.openElement path key, current := path ++ [key] }

/-- The table that a document is; a byte-order mark at its start does not count. -/
def parse? (text : String) : Option Table := do
  let cs :=
    match text.toList with
    | '\ufeff' :: cs => cs
    | cs => cs
  let lines ← readLines cs.length cs
  let d ← lines.foldlM Draft.add ⟨OpenTable.empty, []⟩
  untagDocument? (entriesToTable d.root.entries)

end TreeSpec.Toml
