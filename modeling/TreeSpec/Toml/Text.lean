import TreeSpec.Text.Digits
import TreeSpec.Toml.Lexeme

/-!
# Strings and keys of TOML

Strings are basic, with escapes, or literal, without; either may span several lines. A key
is a sequence of parts with points between them, and a part may be a string of one line.
-/

namespace TreeSpec.Toml

def shortEscape? : Char → Option Char
  | 'b' => some '\x08'
  | 't' => some '\t'
  | 'n' => some '\n'
  | 'f' => some '\x0c'
  | 'r' => some '\r'
  | '"' => some '"'
  | '\\' => some '\\'
  | _ => none

def codedChar? (run : List Char) : Option Char := do
  let code ← run.foldlM (fun n c => return n * 16 + (← Text.hexDigit? c)) 0
  if code.isValidChar then some (Char.ofNat code) else none

def readBasic : List Char → Option (Read (List Char))
  | '"' :: cs => some ([], cs)
  | '\\' :: 'u' :: a :: b :: c :: d :: cs => do
    consRead (← codedChar? [a, b, c, d]) (readBasic cs)
  | '\\' :: 'U' :: a :: b :: c :: d :: e :: f :: g :: h :: cs => do
    consRead (← codedChar? [a, b, c, d, e, f, g, h]) (readBasic cs)
  | '\\' :: c :: cs => do consRead (← shortEscape? c) (readBasic cs)
  | c :: cs => if isPlain c && c != '\\' then consRead c (readBasic cs) else none
  | [] => none

def readLiteral : List Char → Option (Read (List Char))
  | '\'' :: cs => some ([], cs)
  | c :: cs => if isPlain c then consRead c (readLiteral cs) else none
  | [] => none

/-- The text of a basic string of several lines up to its closing quotes; one or two
quotes right before these belong to the text. Between a backslash at the end of a line and
the next character that is not blank, which `folding` says, nothing counts. -/
def readLongBasic (folding : Bool) : List Char → Option (Read (List Char))
  | '"' :: '"' :: '"' :: '"' :: '"' :: cs => some (['"', '"'], cs)
  | '"' :: '"' :: '"' :: '"' :: cs => some (['"'], cs)
  | '"' :: '"' :: '"' :: cs => some ([], cs)
  | '\\' :: 'u' :: a :: b :: c :: d :: cs => do
    consRead (← codedChar? [a, b, c, d]) (readLongBasic false cs)
  | '\\' :: 'U' :: a :: b :: c :: d :: e :: f :: g :: h :: cs => do
    consRead (← codedChar? [a, b, c, d, e, f, g, h]) (readLongBasic false cs)
  | '\\' :: c :: cs =>
    if (nextLine? (skipBlanks (c :: cs))).isSome then readLongBasic true (c :: cs)
    else do consRead (← shortEscape? c) (readLongBasic false cs)
  | '\r' :: '\n' :: cs =>
    if folding then readLongBasic true cs else consRead '\n' (readLongBasic false cs)
  | c :: cs =>
    if folding && (isBlank c || c == '\n') then readLongBasic true cs
    else if c == '\n' || (isPlain c && c != '\\') then consRead c (readLongBasic false cs)
    else none
  | [] => none

/-- The text of a literal string of several lines up to its closing quotes; one or two
quotes right before these belong to the text. -/
def readLongLiteral : List Char → Option (Read (List Char))
  | '\'' :: '\'' :: '\'' :: '\'' :: '\'' :: cs => some (['\'', '\''], cs)
  | '\'' :: '\'' :: '\'' :: '\'' :: cs => some (['\''], cs)
  | '\'' :: '\'' :: '\'' :: cs => some ([], cs)
  | '\r' :: '\n' :: cs => consRead '\n' (readLongLiteral cs)
  | c :: cs => if c == '\n' || isPlain c then consRead c (readLongLiteral cs) else none
  | [] => none

def skipLineEnd (cs : List Char) : List Char := (nextLine? cs).getD cs

def readString : List Char → Option (Read String)
  | '"' :: '"' :: '"' :: cs =>
    (readLongBasic false (skipLineEnd cs)).map fun (text, rest) => (String.ofList text, rest)
  | '"' :: cs => (readBasic cs).map fun (text, rest) => (String.ofList text, rest)
  | '\'' :: '\'' :: '\'' :: cs =>
    (readLongLiteral (skipLineEnd cs)).map fun (text, rest) => (String.ofList text, rest)
  | '\'' :: cs => (readLiteral cs).map fun (text, rest) => (String.ofList text, rest)
  | _ => none

def isBareChar (c : Char) : Bool := c.isAlphanum || c == '-' || c == '_'

/-- A part of a key: a string of one line, or a run of bare characters. -/
def readKeyPart : List Char → Option (Read String)
  | '"' :: cs => (readBasic cs).map fun (text, rest) => (String.ofList text, rest)
  | '\'' :: cs => (readLiteral cs).map fun (text, rest) => (String.ofList text, rest)
  | cs =>
    let run := cs.takeWhile isBareChar
    if run.isEmpty then none else some (String.ofList run, cs.dropWhile isBareChar)

/-- The parts of a key, at most `most` of them, with blanks around each. -/
def readKeyParts : (most : Nat) → List Char → Option (Read (List String))
  | 0, _ => none
  | most + 1, cs => do
    let (part, rest) ← readKeyPart (skipBlanks cs)
    match skipBlanks rest with
    | '.' :: rest => (readKeyParts most rest).map fun (parts, rest) => (part :: parts, rest)
    | rest => some ([part], rest)

/-- How deep values may be nested, and how many parts a key may have. -/
def depthLimit : Nat := 79

/-- A key: the parts that lead to a table, and the part that names an entry of it. -/
def readKey (cs : List Char) : Option (Read (List String × String)) := do
  let (parts, rest) ← readKeyParts depthLimit cs
  let last ← parts.getLast?
  return ((parts.dropLast, last), rest)

end TreeSpec.Toml
