/-!
# Blanks, lines and comments of TOML

A line of TOML ends in a line feed, which a carriage return may precede. Comments reach to
the end of their line and hold no control characters except tabs.
-/

namespace TreeSpec.Toml

abbrev Read (α : Type) := α × List Char

def consRead (c : Char) (read : Option (Read (List Char))) : Option (Read (List Char)) :=
  read.map fun (text, rest) => (c :: text, rest)

def isBlank (c : Char) : Bool := c == ' ' || c == '\t'

def skipBlanks (cs : List Char) : List Char := cs.dropWhile isBlank

/-- A character that may stand in a comment: tabs, and all that are no control characters
of ASCII. -/
def isPlain (c : Char) : Bool := c == '\t' || (' ' ≤ c && c != '\x7f')

/-- The start of the next line, if the text is at the end of one. -/
def nextLine? : List Char → Option (List Char)
  | '\n' :: cs => some cs
  | '\r' :: '\n' :: cs => some cs
  | _ => none

def skipComment : List Char → List Char
  | '#' :: cs => cs.dropWhile isPlain
  | cs => cs

/-- The start of the next line, if nothing but blanks and a comment is left of this one. -/
def endLine? (cs : List Char) : Option (List Char) :=
  match skipComment (skipBlanks cs) with
  | [] => some []
  | rest => nextLine? rest

theorem length_of_nextLine? {cs rest : List Char} (h : nextLine? cs = some rest) :
    rest.length < cs.length := by
  fun_cases nextLine? cs with
  | case1 =>
    obtain rfl := Option.some.inj h
    simp only [List.length_cons]
    omega
  | case2 =>
    obtain rfl := Option.some.inj h
    simp only [List.length_cons]
    omega
  | case3 => simp_all [nextLine?]

theorem length_skipComment_le (cs : List Char) : (skipComment cs).length ≤ cs.length := by
  fun_cases skipComment cs with
  | case1 cs =>
    have := (List.dropWhile_sublist (l := cs) isPlain).length_le
    simp only [List.length_cons]
    omega
  | case2 => exact Nat.le_refl _

theorem length_skipBlanks_le (cs : List Char) : (skipBlanks cs).length ≤ cs.length :=
  (List.dropWhile_sublist isBlank).length_le

/-- The text from its first character that is neither blank nor part of a comment, on
whatever line that is. A comment has to be followed by another line. -/
def skipLines (cs : List Char) : Option (List Char) :=
  match h : nextLine? (skipComment (skipBlanks cs)) with
  | some rest =>
    have : rest.length < cs.length := by
      have := length_of_nextLine? h
      have := length_skipComment_le (skipBlanks cs)
      have := length_skipBlanks_le cs
      omega
    skipLines rest
  | none => if (skipBlanks cs).head? = some '#' then none else some (skipBlanks cs)
termination_by cs.length

end TreeSpec.Toml
