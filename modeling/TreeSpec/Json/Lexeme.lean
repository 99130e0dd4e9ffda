/-!
# Faults, blanks and words of JSON

Reading a JSON text goes from left to right and stops at the first fault, which is either
a character that cannot stand where it stands or the end of the text.
-/

namespace TreeSpec.Json

/-- Why a text is not JSON. -/
inductive Fault where
  | unfinished
  | malformed
deriving DecidableEq, Repr

/-- The fault at a place where something else is needed: the text may simply end there. -/
def faultAt : List Char → Fault
  | [] => .unfinished
  | _ => .malformed

def isBlank (c : Char) : Bool := c == ' ' || c == '\n' || c == '\t' || c == '\r'

def skipBlanks (cs : List Char) : List Char := cs.dropWhile isBlank

theorem length_skipBlanks_le (cs : List Char) : (skipBlanks cs).length ≤ cs.length :=
  (List.dropWhile_sublist isBlank).length_le

/-- What follows the expected word. -/
def readWord : (word : List Char) → List Char → Except Fault (List Char)
  | [], cs => .ok cs
  | _, [] => .error .unfinished
  | w :: word, c :: cs => if w = c then readWord word cs else .error .malformed

theorem length_of_readWord {word cs rest : List Char} (h : readWord word cs = .ok rest) :
    cs.length = word.length + rest.length := by
  fun_induction readWord word cs with
  | case1 => simp_all
  | case2 => simp at h
  | case3 _ _ _ ih => simp [ih h]; omega
  | case4 => simp at h

/-- One more item in front of what was read. -/
def consRead (x : α) (read : Except Fault (List α × List Char)) :
    Except Fault (List α × List Char) :=
  read.map fun (xs, rest) => (x :: xs, rest)

theorem consRead_eq_ok_iff {x : α} {read : Except Fault (List α × List Char)} {ys : List α}
    {rest : List Char} :
    consRead x read = .ok (ys, rest) ↔ ∃ xs, read = .ok (xs, rest) ∧ ys = x :: xs := by
  cases read with
  | error => simp [consRead, Except.map]
  | ok p =>
    obtain ⟨xs, cs⟩ := p
    simp only [consRead, Except.map, Except.ok.injEq, Prod.mk.injEq]
    constructor
    · rintro ⟨rfl, rfl⟩
      exact ⟨xs, ⟨rfl, rfl⟩, rfl⟩
    · rintro ⟨_, ⟨rfl, rfl⟩, rfl⟩
      exact ⟨rfl, rfl⟩

end TreeSpec.Json
