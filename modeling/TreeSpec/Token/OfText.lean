import TreeSpec.Token.OfValue

/-!
# Tokens from JSON texts

Reading a token while going through its JSON text. Faults of the text and of its content
are found in the order in which they stand there, and members that a token does not have
are passed over as soon as they are read.
-/

namespace TreeSpec.Token

open Json

/-- Why a text is no token: it is not JSON, or it has the wrong content. -/
inductive ReadError where
  | fault (fault : Fault)
  | content (error : ContentError)
deriving DecidableEq

abbrev Reading (α : Type) (cs : List Char) := ReadOr ReadError α cs

/-- What is read next, from what the first reading left. -/
def Reading.andThen {cs : List Char} (reading : Reading α cs)
    (next : α → (rest : List Char) → Reading β rest) : Reading β cs :=
  match reading with
  | .error e => .error e
  | .ok p => (next p.1 p.2.1).after (Nat.le_of_lt p.2.2)

/-- What is read without regard to content. -/
def Reading.ofRead {cs : List Char} (read : ReadFrom α cs) : Reading α cs := read.mapError .fault

def readString (cs : List Char) : ReadFrom String cs :=
  match h : readChars none cs with
  | .error fault => .error fault
  | .ok (text, rest) => .ok (String.ofList text, ⟨rest, length_of_readChars h⟩)

/-- A numeral as a number; one that is past the largest double is a fault. -/
def readNumber (cs : List Char) : ReadFrom Number cs :=
  match h : readNumeral cs with
  | .error fault => .error fault
  | .ok (n, rest) =>
    match n.number with
    | .integer i => .ok (.integer i, ⟨rest, length_of_readNumeral h⟩)
    | .floating n =>
      if n.double?.isSome then .ok (.floating n, ⟨rest, length_of_readNumeral h⟩)
      else .error .malformed

def startsNumeral (c : Char) : Bool := c == '-' || c.isDigit

/-- The fault of the value that starts here, when its type is not the expected one. A
string is read to its end, but an array or object only up to its opening bracket. -/
def typeFault (expected : Expected) (cs : List Char) : ReadError :=
  let found : Except Fault Found :=
    match cs with
    | [] => .error .unfinished
    | 'n' :: cs => (readWord "ull".toList cs).map fun _ => .null
    | 't' :: cs => (readWord "rue".toList cs).map fun _ => .bool true
    | 'f' :: cs => (readWord "alse".toList cs).map fun _ => .bool false
    | '"' :: cs => (readString cs).map fun (s, _) => .string s
    | '[' :: _ => .ok .sequence
    | '\x7b' :: _ => .ok .map
    | c :: cs =>
      if startsNumeral c then
        (readNumber (c :: cs)).map fun (n, _) => Found.ofValue (.number n)
      else .error .malformed
  match found with
  | .error fault => .fault fault
  | .ok found => .content (.invalidType found expected)

def readLevel (cs : List Char) : Reading Size cs :=
  match cs with
  | [] => .error (.fault .unfinished)
  | c :: cs =>
    if startsNumeral c then
      match readNumber (c :: cs) with
      | .error fault => .error (.fault fault)
      | .ok (n, rest) => ((levelOfNumber n).mapError .content).map (·, rest)
    else .error (typeFault .size (c :: cs))

def readText (cs : List Char) : Reading String cs :=
  match cs with
  | '"' :: cs => (Reading.ofRead (readString cs)).after (by simp)
  | cs => .error (typeFault .string cs)

def Draft.readMember (d : Draft) (member : Member) (cs : List Char) : Reading Draft cs :=
  let value : Reading Draft (skipBlanks cs) :=
    match member with
    | .tabLevel => (readLevel (skipBlanks cs)).map fun (level, rest) => (d.withTabLevel level, rest)
    | .text field => (readText (skipBlanks cs)).map fun (s, rest) => (d.withText field s, rest)
  value.after (length_skipBlanks_le cs)

def readColon (cs : List Char) : Reading Unit cs :=
  match h : skipBlanks cs with
  | ':' :: rest => .ok ((), ⟨rest, by
      have := length_skipBlanks_le cs
      simp only [h, List.length_cons] at this
      omega⟩)
  | rest => .error (.fault (faultAt rest))

/-- The draft with the member of a given key read, from its colon on. A member that has
been read before is refused at once. -/
def Draft.readNamed (d : Draft) (key : String) (cs : List Char) : Reading Draft cs :=
  match Member.ofKey? key with
  | some member =>
    if d.has member then .error (.content (.duplicate member))
    else (readColon cs).andThen fun _ => d.readMember member
  | none =>
    (readColon cs).andThen fun _ rest =>
      (Reading.ofRead (Json.readValue rest)).map fun p => (d, p.2)

def Draft.readEntry (d : Draft) (cs : List Char) : Reading Draft cs :=
  match cs with
  | '"' :: cs => ((Reading.ofRead (readString cs)).andThen d.readNamed).after (by simp)
  | cs => .error (.fault (faultAt cs))

def Draft.readEntries (d : Draft) (cs : List Char) : Reading Draft cs := do
  let (d, ⟨rest, shorter⟩) ← (d.readEntry (skipBlanks cs)).after (length_skipBlanks_le cs)
  match h : skipBlanks rest with
  | '}' :: rest' => .ok (d, ⟨rest', by
      have := length_skipBlanks_le rest
      simp only [h, List.length_cons] at this
      omega⟩)
  | ',' :: rest' =>
    have shorter : rest'.length < cs.length := by
      have := length_skipBlanks_le rest
      simp only [h, List.length_cons] at this
      omega
    (d.readEntries rest').after (Nat.le_of_lt shorter)
  | rest' => .error (.fault (faultAt rest'))
termination_by cs.length

/-- The token of an object whose opening brace has been read. -/
def readObject (cs : List Char) : Except ReadError (Token × List Char) := do
  let (d, rest) ←
    match skipBlanks cs with
    | '}' :: rest => pure (Draft.empty, rest)
    | rest => (Draft.empty.readEntries rest).map fun (d, rest) => (d, rest.1)
  return (← d.token.mapError .content, rest)

/-- The draft with the elements of an array read for the given members. A bracket may
close the array in front of any of them. `first` says that no element has been read. -/
def Draft.readElements (d : Draft) (first : Bool) :
    List Member → List Char → Except ReadError (Draft × List Char)
  | [], cs =>
    match skipBlanks cs with
    | ']' :: rest => .ok (d, rest)
    | rest => .error (.fault (faultAt rest))
  | member :: members, cs =>
    match skipBlanks cs, first with
    | ']' :: _, true => .error (.content .emptyArray)
    | ']' :: rest, false => .ok (d, rest)
    | ',' :: rest, false => do
      if (skipBlanks rest).head? = some ']' then throw (.fault .malformed)
      let (d, rest) ← d.readMember member rest
      d.readElements false members rest.1
    | rest, true => do
      let (d, rest) ← d.readMember member rest
      d.readElements false members rest.1
    | rest, false => .error (.fault (faultAt rest))

def ofText (text : String) : Except ReadError Token := do
  let (token, rest) ←
    match skipBlanks text.toList with
    | '\x7b' :: cs => readObject cs
    | '[' :: cs => do
      let (d, rest) ← Draft.empty.readElements true Member.all cs
      pure (← d.token.mapError .content, rest)
    | cs => .error (typeFault .token cs)
  if (skipBlanks rest).isEmpty then return token else throw (.fault .malformed)

end TreeSpec.Token
