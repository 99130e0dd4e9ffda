import TreeSpec.Json.Numeral
import TreeSpec.Json.Text

/-!
# JSON as it is written

The structure of a JSON text, with its strings and numbers left as they stand there. A
text has such a structure exactly when it follows the grammar of JSON; whether its strings
denote characters is asked later.
-/

namespace TreeSpec.Json

/-- A JSON text without its blanks. -/
inductive Written where
  | null
  | bool (b : Bool)
  | number (numeral : Numeral)
  | string (pieces : List Piece)
  | array (elements : List Written)
  | object (members : List (List Piece × Written))

/-- What is left of a text after some of it was read: strictly less. -/
abbrev Shorter (cs : List Char) := { rest : List Char // rest.length < cs.length }

def Shorter.after {cs earlier : List Char} (rest : Shorter cs)
    (h : cs.length ≤ earlier.length) : Shorter earlier :=
  ⟨rest.1, Nat.lt_of_lt_of_le rest.2 h⟩

/-- Something that was read and what follows it, or why it cannot be read. -/
abbrev ReadOr (ε α : Type) (cs : List Char) := Except ε (α × Shorter cs)

def ReadOr.after {cs earlier : List Char} (read : ReadOr ε α cs)
    (h : cs.length ≤ earlier.length) : ReadOr ε α earlier :=
  read.map fun p => (p.1, p.2.after h)

abbrev ReadFrom (α : Type) (cs : List Char) := ReadOr Fault α cs

def readConstant (value : Written) (word cs : List Char) (h : word ≠ []) :
    ReadFrom Written cs :=
  match hw : readWord word cs with
  | .error fault => .error fault
  | .ok rest => .ok (value, ⟨rest, by
      have := length_of_readWord hw
      have := List.length_pos_iff.2 h
      omega⟩)

/-- A value that is neither an array nor an object. -/
def readScalar (cs : List Char) : ReadFrom Written cs :=
  match cs with
  | [] => .error .unfinished
  | 'n' :: cs => readConstant .null ['n', 'u', 'l', 'l'] ('n' :: cs) (by simp)
  | 't' :: cs => readConstant (.bool true) ['t', 'r', 'u', 'e'] ('t' :: cs) (by simp)
  | 'f' :: cs => readConstant (.bool false) ['f', 'a', 'l', 's', 'e'] ('f' :: cs) (by simp)
  | '"' :: cs =>
    match h : readPieces cs with
    | .error fault => .error fault
    | .ok (pieces, rest) => .ok (.string pieces, ⟨rest, by
        have := length_of_readPieces h
        simp only [List.length_cons]
        omega⟩)
  | c :: cs =>
    match h : readNumeral (c :: cs) with
    | .error _ => .error .malformed
    | .ok (numeral, rest) => .ok (.number numeral, ⟨rest, length_of_readNumeral h⟩)

/-- The key of a member up to its colon; the opening quote has to come next. -/
def readKey (cs : List Char) : ReadFrom (List Piece) cs :=
  match cs with
  | '"' :: cs =>
    match h : readPieces cs with
    | .error fault => .error fault
    | .ok (key, rest) =>
      match hb : skipBlanks rest with
      | ':' :: rest' => .ok (key, ⟨rest', by
          have := length_of_readPieces h
          have := length_skipBlanks_le rest
          simp only [hb, List.length_cons] at *
          omega⟩)
      | rest' => .error (faultAt rest')
  | cs => .error (faultAt cs)

mutual

def readValue (cs : List Char) : ReadFrom Written cs :=
  match h : skipBlanks cs with
  | '[' :: rest =>
    have shorter : rest.length < cs.length := by
      have := length_skipBlanks_le cs
      simp only [h, List.length_cons] at this
      omega
    match hb : skipBlanks rest with
    | ']' :: rest' => .ok (.array [], ⟨rest', by
        have := length_skipBlanks_le rest
        simp only [hb, List.length_cons] at this
        omega⟩)
    | _ => do
      let (elements, rest') ← (readElements rest).after (Nat.le_of_lt shorter)
      return (.array elements, rest')
  | '{' :: rest =>
    have shorter : rest.length < cs.length := by
      have := length_skipBlanks_le cs
      simp only [h, List.length_cons] at this
      omega
    match hb : skipBlanks rest with
    | '}' :: rest' => .ok (.object [], ⟨rest', by
        have := length_skipBlanks_le rest
        simp only [hb, List.length_cons] at this
        omega⟩)
    | _ => do
      let (members, rest') ← (readMembers rest).after (Nat.le_of_lt shorter)
      return (.object members, rest')
  | rest => (readScalar rest).after (h ▸ length_skipBlanks_le cs)
termination_by 2 * cs.length

/-- The elements of an array up to its closing bracket; there is at least one. -/
def readElements (cs : List Char) : ReadFrom (List Written) cs := do
  let (element, ⟨rest, shorter⟩) ← readValue cs
  match hb : skipBlanks rest with
  | ']' :: rest' => .ok ([element], ⟨rest', by
      have := length_skipBlanks_le rest
      simp only [hb, List.length_cons] at this
      omega⟩)
  | ',' :: rest' =>
    have shorter : rest'.length < cs.length := by
      have := length_skipBlanks_le rest
      simp only [hb, List.length_cons] at this
      omega
    let (elements, rest'') ← (readElements rest').after (Nat.le_of_lt shorter)
    return (element :: elements, rest'')
  | rest' => .error (faultAt rest')
termination_by 2 * cs.length + 1

def readMembers (cs : List Char) : ReadFrom (List (List Piece × Written)) cs := do
  let (key, ⟨rest, shorter⟩) ← (readKey (skipBlanks cs)).after (length_skipBlanks_le cs)
  let (value, ⟨rest, shorter⟩) ← (readValue rest).after (Nat.le_of_lt shorter)
  match hb : skipBlanks rest with
  | '}' :: rest' => .ok ([(key, value)], ⟨rest', by
      have := length_skipBlanks_le rest
      simp only [hb, List.length_cons] at this
      omega⟩)
  | ',' :: rest' =>
    have shorter : rest'.length < cs.length := by
      have := length_skipBlanks_le rest
      simp only [hb, List.length_cons] at this
      omega
    let (members, rest'') ← (readMembers rest').after (Nat.le_of_lt shorter)
    return ((key, value) :: members, rest'')
  | rest' => .error (faultAt rest')
termination_by 2 * cs.length + 1

end

def Written.parse (cs : List Char) : Except Fault Written := do
  let (value, rest) ← readValue cs
  if (skipBlanks rest.1).isEmpty then return value else throw .malformed

end TreeSpec.Json
