import TreeSpec.Json.Lexeme
import TreeSpec.Text.Digits

/-!
# Strings of JSON

A string is read in two ways. `readPieces` only finds its end and keeps every escape as it
was written; `readChars` reads its characters, which fails when a code unit that is half
of a pair stands alone. `decodePieces` leads from the one to the other.
-/

namespace TreeSpec.Json

/-- A part of a string: a character, or a code unit that was given by its number. -/
inductive Piece where
  | char (c : Char)
  | unit (code : Nat)
deriving DecidableEq, Repr

def hexUnit? (a b c d : Char) : Option Nat := do
  let a ← Text.hexDigit? a
  let b ← Text.hexDigit? b
  let c ← Text.hexDigit? c
  let d ← Text.hexDigit? d
  return ((a * 16 + b) * 16 + c) * 16 + d

def shortEscape? : Char → Option Char
  | '"' => some '"'
  | '\\' => some '\\'
  | '/' => some '/'
  | 'b' => some '\x08'
  | 'f' => some '\x0c'
  | 'n' => some '\n'
  | 'r' => some '\r'
  | 't' => some '\t'
  | _ => none

/-- The fault of an escape whose four digits are cut short: the text counts as unfinished
when fewer than four bytes of it are left. -/
def cutUnitFault (cs : List Char) : Fault :=
  if (String.ofList cs).utf8ByteSize < 4 then .unfinished else .malformed

/-- The pieces of a string up to its closing quote, and what follows. -/
def readPieces : List Char → Except Fault (List Piece × List Char)
  | [] => .error .unfinished
  | '"' :: cs => .ok ([], cs)
  | '\\' :: 'u' :: a :: b :: c :: d :: cs =>
    match hexUnit? a b c d with
    | none => .error .malformed
    | some code => consRead (.unit code) (readPieces cs)
  | '\\' :: 'u' :: cs => .error (cutUnitFault cs)
  | '\\' :: c :: cs =>
    match shortEscape? c with
    | none => .error .malformed
    | some c => consRead (.char c) (readPieces cs)
  | '\\' :: [] => .error .unfinished
  | c :: cs =>
    if c < ' ' then .error .malformed
    else consRead (.char c) (readPieces cs)

theorem length_of_readPieces {cs rest : List Char} {pieces : List Piece}
    (h : readPieces cs = .ok (pieces, rest)) : rest.length < cs.length := by
  fun_induction readPieces cs generalizing pieces with
  | case1 | case3 | case5 | case6 | case8 | case9 => simp at h
  | case2 => simp_all
  | case4 | case7 | case10 =>
    rename_i ih
    obtain ⟨_, h, _⟩ := consRead_eq_ok_iff.1 h
    have := ih h
    simp only [List.length_cons]
    omega

def isLead (code : Nat) : Bool := 0xD800 ≤ code && code < 0xDC00

def isTrail (code : Nat) : Bool := 0xDC00 ≤ code && code < 0xE000

def pairChar (lead trail : Nat) : Char :=
  Char.ofNat ((lead - 0xD800) * 0x400 + (trail - 0xDC00) + 0x10000)

/-- The characters that the pieces of a string stand for, unless a unit lacks its partner. -/
def decodePieces : List Piece → Option (List Char)
  | [] => some []
  | .char c :: pieces => (decodePieces pieces).map (c :: ·)
  | .unit lead :: .unit trail :: pieces =>
    if isLead lead then
      if isTrail trail then (decodePieces pieces).map (pairChar lead trail :: ·) else none
    else if isTrail lead then none
    else (decodePieces (.unit trail :: pieces)).map (Char.ofNat lead :: ·)
  | .unit code :: pieces =>
    if isLead code || isTrail code then none
    else (decodePieces pieces).map (Char.ofNat code :: ·)

/-- The characters of a string up to its closing quote, and what follows. When `lead` is a
code unit, its partner has to come next. -/
def readChars (lead : Option Nat) : List Char → Except Fault (List Char × List Char)
  | '\\' :: 'u' :: a :: b :: c :: d :: cs =>
    match hexUnit? a b c d, lead with
    | none, _ => .error .malformed
    | some code, some lead =>
      if isTrail code then
        consRead (pairChar lead code) (readChars none cs)
      else .error .malformed
    | some code, none =>
      if isLead code then readChars (some code) cs
      else if isTrail code then .error .malformed
      else consRead (Char.ofNat code) (readChars none cs)
  | '\\' :: 'u' :: cs => .error (cutUnitFault cs)
  | '\\' :: e :: cs =>
    match shortEscape? e, lead with
    | some c, none => consRead c (readChars none cs)
    | _, _ => .error .malformed
  | '\\' :: [] => .error .unfinished
  | '"' :: cs => if lead.isSome then .error .malformed else .ok ([], cs)
  | c :: cs =>
    if lead.isSome || c < ' ' then .error .malformed
    else consRead c (readChars none cs)
  | [] => .error .unfinished

theorem length_of_readChars {lead : Option Nat} {cs rest text : List Char}
    (h : readChars lead cs = .ok (text, rest)) : rest.length < cs.length := by
  fun_induction readChars lead cs generalizing text with
  | case4 =>
    rename_i ih
    have := ih h
    simp only [List.length_cons]
    omega
  | case1 | case3 | case5 | case7 | case9 | case10 | case11 | case13 | case15 => simp at h
  | case12 => simp_all
  | case2 | case6 | case8 | case14 =>
    rename_i ih
    obtain ⟨_, h, _⟩ := consRead_eq_ok_iff.1 h
    have := ih h
    simp only [List.length_cons]
    omega

end TreeSpec.Json
