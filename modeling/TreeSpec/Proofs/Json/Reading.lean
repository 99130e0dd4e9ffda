import Mathlib.Data.List.DropRight
import TreeSpec.Json.Value

/-!
# Readings of JSON

What a reader gives and where it stops, without the proof that it read something. For each
reader of a value, of elements or of members, one lemma says when it gives what.
-/

namespace TreeSpec.Json

/-- Whether a reader gives `a` and leaves `rest`. -/
def Gives {cs : List Char} (read : Except ε (α × Shorter cs)) (a : α) (rest : List Char) : Prop :=
  ∃ h, read = .ok (a, ⟨rest, h⟩)

section Gives

variable {cs cs' earlier rest : List Char} {a : α} {b : β}

theorem gives_ok_iff {mid : Shorter cs} :
    Gives (.ok (a, mid) : Except ε (α × Shorter cs)) a' rest ↔ a = a' ∧ mid.1 = rest := by
  constructor
  · rintro ⟨_, h⟩
    cases h
    exact ⟨rfl, rfl⟩
  · rintro ⟨rfl, rfl⟩
    exact ⟨mid.2, rfl⟩

theorem gives_ok_of_read {read : Except ε' (α × List Char)} {f : α → β} {mid : List Char}
    {hm : mid.length < cs.length} (h : read = .ok (a, mid)) :
    Gives (.ok (f a, ⟨mid, hm⟩) : Except ε (β × Shorter cs)) b rest ↔
      ∃ a, read = .ok (a, rest) ∧ b = f a := by
  rw [gives_ok_iff]
  constructor
  · rintro ⟨rfl, rfl⟩
    exact ⟨a, h, rfl⟩
  · rintro ⟨_, h', rfl⟩
    cases h.symm.trans h'
    exact ⟨rfl, rfl⟩

theorem not_gives_error {e : ε} : ¬ Gives (.error e : Except ε (α × Shorter cs)) a rest :=
  nofun

theorem gives_unique {read : Except ε (α × Shorter cs)} {a a' : α} {rest rest' : List Char}
    (h : Gives read a rest) (h' : Gives read a' rest') : a = a' ∧ rest = rest' := by
  obtain ⟨_, rfl⟩ := h
  exact gives_ok_iff.1 h'

theorem gives_after_iff {read : ReadOr ε α cs} {h : cs.length ≤ earlier.length} :
    Gives (read.after h) a rest ↔ Gives read a rest := by
  cases read with
  | error e => exact iff_of_false not_gives_error not_gives_error
  | ok p =>
    obtain ⟨a', mid⟩ := p
    rw [gives_ok_iff]
    exact gives_ok_iff

theorem gives_bind_iff {read : Except ε (α × Shorter cs)}
    {next : α × Shorter cs → Except ε (β × Shorter cs')} :
    Gives (read >>= next) b rest ↔
      ∃ a mid, Gives read a mid ∧ ∀ h, Gives (next (a, ⟨mid, h⟩)) b rest := by
  cases read with
  | error e => exact iff_of_false not_gives_error fun ⟨_, _, h, _⟩ => not_gives_error h
  | ok p =>
    obtain ⟨a, mid, hm⟩ := p
    constructor
    · intro h
      exact ⟨a, mid, ⟨hm, rfl⟩, fun _ => h⟩
    · rintro ⟨_, _, h, hn⟩
      obtain ⟨rfl, rfl⟩ := gives_ok_iff.1 h
      exact hn hm

theorem gives_map_iff {read : Except ε (α × Shorter cs)} {f : α → β} :
    Gives (read.map fun p => (f p.1, p.2)) b rest ↔ ∃ a, Gives read a rest ∧ b = f a := by
  cases read with
  | error e => exact iff_of_false not_gives_error fun ⟨_, h, _⟩ => not_gives_error h
  | ok p =>
    constructor
    · intro h
      obtain ⟨rfl, rfl⟩ := gives_ok_iff.1 h
      exact ⟨p.1, gives_ok_iff.2 ⟨rfl, rfl⟩, rfl⟩
    · rintro ⟨a, h, rfl⟩
      obtain ⟨rfl, rfl⟩ := gives_ok_iff.1 h
      exact gives_ok_iff.2 ⟨rfl, rfl⟩

end Gives

theorem skipBlanks_cons {c : Char} (h : isBlank c = false) (cs : List Char) :
    skipBlanks (c :: cs) = c :: cs :=
  List.dropWhile_cons_of_neg (by simp [h])

theorem skipBlanks_skipBlanks (cs : List Char) : skipBlanks (skipBlanks cs) = skipBlanks cs :=
  List.dropWhile_idempotent isBlank cs

theorem readConstant_gives_iff {value w : Written} {word cs rest : List Char} {hw : word ≠ []} :
    Gives (readConstant value word cs hw) w rest ↔ readWord word cs = .ok rest ∧ w = value := by
  unfold readConstant
  split
  · rename_i h
    simp [h, not_gives_error]
  · rename_i h
    simp only [gives_ok_iff, h, Except.ok.injEq]
    constructor
    · rintro ⟨rfl, rfl⟩
      exact ⟨rfl, rfl⟩
    · rintro ⟨rfl, rfl⟩
      exact ⟨rfl, rfl⟩

theorem readWhole_start {c : Char} {cs run rest : List Char}
    (h : readWhole (c :: cs) = .ok (run, rest)) : c.isDigit = true := by
  by_cases zero : c = '0'
  · subst zero
    decide
  · rw [readWhole] at h
    · unfold readDigits at h
      by_cases digit : c.isDigit = true
      · exact digit
      · simp [digit] at h
    · rintro cs ⟨⟩
      exact zero rfl

theorem readNumeral_start {c : Char} {cs rest : List Char} {n : Numeral}
    (h : readNumeral (c :: cs) = .ok (n, rest)) : c = '-' ∨ c.isDigit = true := by
  by_cases minus : c = '-'
  · exact .inl minus
  · rw [readNumeral] at h
    · unfold readMagnitude at h
      cases hw : readWhole (c :: cs) with
      | error e => simp [hw, bind, Except.bind] at h
      | ok p => exact .inr (readWhole_start hw)
    · rintro cs ⟨⟩
      exact minus rfl

theorem ne_of_numeral {c d : Char} (h : c = '-' ∨ c.isDigit = true) (minus : d ≠ '-')
    (digit : d.isDigit = false) : c ≠ d := by
  rintro rfl
  rcases h with h | h
  · exact minus h
  · rw [h] at digit
    exact absurd digit (by decide)

/-- Whatever starts like a word, a string or a bracket is no numeral. -/
theorem readNumeral_ne_ok {c : Char} {cs rest : List Char} {n : Numeral}
    (h : c ≠ '-' ∧ c.isDigit = false) : readNumeral (c :: cs) ≠ .ok (n, rest) := by
  intro read
  exact ne_of_numeral (readNumeral_start read) h.1 h.2 rfl

/-- What a scalar at the start of a text is and where it ends. -/
inductive ScalarAt (cs : List Char) : Written → List Char → Prop
  | null {rest} : readWord ['n', 'u', 'l', 'l'] cs = .ok rest → ScalarAt cs .null rest
  | true {rest} : readWord ['t', 'r', 'u', 'e'] cs = .ok rest → ScalarAt cs (.bool true) rest
  | false {rest} :
      readWord ['f', 'a', 'l', 's', 'e'] cs = .ok rest → ScalarAt cs (.bool false) rest
  | string {inner pieces rest} :
      cs = '"' :: inner → readPieces inner = .ok (pieces, rest) → ScalarAt cs (.string pieces) rest
  | number {n rest} : readNumeral cs = .ok (n, rest) → ScalarAt cs (.number n) rest

theorem eq_cons_of_readWord {c : Char} {word cs rest : List Char}
    (h : readWord (c :: word) cs = .ok rest) : ∃ cs', cs = c :: cs' := by
  cases cs with
  | nil => simp [readWord] at h
  | cons d cs =>
    by_cases same : c = d
    · exact ⟨cs, by rw [same]⟩
    · simp [readWord, same] at h

theorem scalarAt_of_gives {cs rest : List Char} {w : Written} (h : Gives (readScalar cs) w rest) :
    ScalarAt cs w rest := by
  unfold readScalar at h
  split at h
  · exact absurd h not_gives_error
  · obtain ⟨word, rfl⟩ := readConstant_gives_iff.1 h
    exact .null word
  · obtain ⟨word, rfl⟩ := readConstant_gives_iff.1 h
    exact .true word
  · obtain ⟨word, rfl⟩ := readConstant_gives_iff.1 h
    exact .false word
  · split at h
    · exact absurd h not_gives_error
    · rename_i read
      obtain ⟨rfl, rfl⟩ := gives_ok_iff.1 h
      exact .string rfl read
  · split at h
    · exact absurd h not_gives_error
    · rename_i read
      obtain ⟨rfl, rfl⟩ := gives_ok_iff.1 h
      exact .number read

theorem gives_of_scalarAt {cs rest : List Char} {w : Written} (h : ScalarAt cs w rest) :
    Gives (readScalar cs) w rest := by
  cases h with
  | null word =>
    obtain ⟨_, rfl⟩ := eq_cons_of_readWord word
    rw [readScalar, readConstant_gives_iff]
    exact ⟨word, rfl⟩
  | true word =>
    obtain ⟨_, rfl⟩ := eq_cons_of_readWord word
    rw [readScalar, readConstant_gives_iff]
    exact ⟨word, rfl⟩
  | false word =>
    obtain ⟨_, rfl⟩ := eq_cons_of_readWord word
    rw [readScalar, readConstant_gives_iff]
    exact ⟨word, rfl⟩
  | string start read =>
    subst start
    rw [readScalar]
    split
    · rename_i failed
      cases failed.symm.trans read
    · rename_i read'
      cases read'.symm.trans read
      exact gives_ok_iff.2 ⟨rfl, rfl⟩
  | number read =>
    cases cs with
    | nil => nomatch read
    | cons c cs =>
      -- no other scalar starts as a numeral does
      have ne (d : Char) := @ne_of_numeral c d (readNumeral_start read)
      rw [readScalar]
      · split
        · rename_i failed
          cases failed.symm.trans read
        · rename_i read'
          cases read'.symm.trans read
          exact gives_ok_iff.2 ⟨rfl, rfl⟩
      · exact ne 'n' (by decide) (by decide)
      · exact ne 't' (by decide) (by decide)
      · exact ne 'f' (by decide) (by decide)
      · exact ne '"' (by decide) (by decide)

theorem readKey_gives_iff {cs rest : List Char} {key : List Piece} :
    Gives (readKey cs) key rest ↔
      ∃ inner mid, cs = '"' :: inner ∧ readPieces inner = .ok (key, mid) ∧
        skipBlanks mid = ':' :: rest := by
  unfold readKey
  split
  · rename_i inner
    split
    · rename_i h
      simp [h, not_gives_error]
    · rename_i key' mid h
      split
      · rename_i hb
        rw [gives_ok_iff]
        constructor
        · rintro ⟨rfl, rfl⟩
          exact ⟨inner, mid, rfl, h, hb⟩
        · rintro ⟨_, _, ⟨⟩, h', hb'⟩
          cases h.symm.trans h'
          cases hb.symm.trans hb'
          exact ⟨rfl, rfl⟩
      · rename_i colon
        refine iff_of_false not_gives_error ?_
        rintro ⟨_, _, ⟨⟩, h', hb⟩
        cases h.symm.trans h'
        exact colon _ hb
  · rename_i quote
    refine iff_of_false not_gives_error ?_
    rintro ⟨inner, _, rfl, _⟩
    exact quote inner rfl

theorem readElements_gives_iff {cs rest : List Char} {elements : List Written} :
    Gives (readElements cs) elements rest ↔
      ∃ element mid, Gives (readValue cs) element mid ∧
        (skipBlanks mid = ']' :: rest ∧ elements = [element] ∨
          ∃ next more, skipBlanks mid = ',' :: next ∧ Gives (readElements next) more rest ∧
            elements = element :: more) := by
  rw [readElements, gives_bind_iff]
  refine exists_congr fun element => exists_congr fun mid => and_congr_right fun read => ?_
  refine (forall_prop_of_true read.1).trans ?_
  dsimp only
  split
  · rename_i hb
    simp [gives_ok_iff, hb, eq_comm, and_comm]
  · rename_i hb
    refine (gives_map_iff (f := (element :: ·))).trans ?_
    simp [gives_after_iff, hb]
  · rename_i bracket comma
    refine iff_of_false not_gives_error ?_
    rintro (⟨hb, _⟩ | ⟨_, _, hb, _⟩)
    · exact bracket _ hb
    · exact comma _ hb

theorem readMembers_gives_iff {cs rest : List Char} {members : List (List Piece × Written)} :
    Gives (readMembers cs) members rest ↔
      ∃ key start, Gives (readKey (skipBlanks cs)) key start ∧
        ∃ value mid, Gives (readValue start) value mid ∧
          (skipBlanks mid = '\x7d' :: rest ∧ members = [(key, value)] ∨
            ∃ next more, skipBlanks mid = ',' :: next ∧ Gives (readMembers next) more rest ∧
              members = (key, value) :: more) := by
  rw [readMembers, gives_bind_iff]
  simp only [gives_after_iff]
  refine exists_congr fun key => exists_congr fun start => and_congr_right fun readKey => ?_
  have shorter := Nat.lt_of_lt_of_le readKey.1 (length_skipBlanks_le cs)
  refine (forall_prop_of_true shorter).trans ?_
  rw [gives_bind_iff]
  simp only [gives_after_iff]
  refine exists_congr fun value => exists_congr fun mid => and_congr_right fun read => ?_
  refine (forall_prop_of_true (Nat.lt_trans read.1 shorter)).trans ?_
  split
  · rename_i hb
    simp [gives_ok_iff, hb, eq_comm, and_comm]
  · rename_i hb
    refine (gives_map_iff (f := ((key, value) :: ·))).trans ?_
    simp [gives_after_iff, hb]
  · rename_i brace comma
    refine iff_of_false not_gives_error ?_
    rintro (⟨hb, _⟩ | ⟨_, _, hb, _⟩)
    · exact brace _ hb
    · exact comma _ hb

/-- What stands between the brackets of a list. -/
def Encloses {inner : List Char} (close : Char) (read : ReadFrom (List α) inner) (items : List α)
    (rest : List Char) : Prop :=
  skipBlanks inner = close :: rest ∧ items = [] ∨
    (∀ next, skipBlanks inner ≠ close :: next) ∧ Gives read items rest

/-- What a value at the start of a text is and where it ends. -/
inductive ValueAt (cs : List Char) : Written → List Char → Prop
  | scalar {w rest} : ScalarAt (skipBlanks cs) w rest → ValueAt cs w rest
  | array {inner elements rest} :
      skipBlanks cs = '[' :: inner → Encloses ']' (readElements inner) elements rest →
      ValueAt cs (.array elements) rest
  | object {inner members rest} :
      skipBlanks cs = '\x7b' :: inner → Encloses '\x7d' (readMembers inner) members rest →
      ValueAt cs (.object members) rest

theorem not_scalarAt_bracket {c : Char} {cs rest : List Char} {w : Written}
    (hc : c = '[' ∨ c = ']' ∨ c = '\x7b') : ¬ ScalarAt (c :: cs) w rest := by
  intro h
  cases h with
  | null word | true word | false word =>
    obtain ⟨_, start⟩ := eq_cons_of_readWord word
    cases start
    exact absurd hc (by decide)
  | string start =>
    cases start
    exact absurd hc (by decide)
  | number read =>
    rcases hc with rfl | rfl | rfl
    all_goals exact readNumeral_ne_ok (by decide) read

theorem valueAt_of_gives {cs rest : List Char} {w : Written} (h : Gives (readValue cs) w rest) :
    ValueAt cs w rest := by
  rw [readValue] at h
  split at h
  · rename_i inner start
    dsimp only at h
    split at h
    · rename_i close
      obtain ⟨rfl, rfl⟩ := gives_ok_iff.1 h
      exact .array start (.inl ⟨close, rfl⟩)
    · rename_i more
      obtain ⟨elements, read, rfl⟩ := gives_map_iff.1 h
      exact .array start (.inr ⟨more, gives_after_iff.1 read⟩)
  · rename_i inner start
    dsimp only at h
    split at h
    · rename_i close
      obtain ⟨rfl, rfl⟩ := gives_ok_iff.1 h
      exact .object start (.inl ⟨close, rfl⟩)
    · rename_i more
      obtain ⟨members, read, rfl⟩ := gives_map_iff.1 h
      exact .object start (.inr ⟨more, gives_after_iff.1 read⟩)
  · exact .scalar (scalarAt_of_gives (gives_after_iff.1 h))

theorem gives_of_valueAt {cs rest : List Char} {w : Written} (h : ValueAt cs w rest) :
    Gives (readValue cs) w rest := by
  rw [readValue]
  split
  · rename_i inner start
    cases h with
    | scalar scalar => exact absurd (start ▸ scalar) (not_scalarAt_bracket (by decide))
    | object start' => cases start.symm.trans start'
    | array start' encloses =>
      cases start.symm.trans start'
      dsimp only
      rcases encloses with ⟨close, rfl⟩ | ⟨more, read⟩
      · split
        · rename_i close'
          cases close'.symm.trans close
          exact gives_ok_iff.2 ⟨rfl, rfl⟩
        · rename_i more
          exact absurd close (more rest)
      · split
        · rename_i close
          exact absurd close (more _)
        · exact gives_map_iff.2 ⟨_, gives_after_iff.2 read, rfl⟩
  · rename_i inner start
    cases h with
    | scalar scalar => exact absurd (start ▸ scalar) (not_scalarAt_bracket (by decide))
    | array start' => cases start.symm.trans start'
    | object start' encloses =>
      cases start.symm.trans start'
      dsimp only
      rcases encloses with ⟨close, rfl⟩ | ⟨more, read⟩
      · split
        · rename_i close'
          cases close'.symm.trans close
          exact gives_ok_iff.2 ⟨rfl, rfl⟩
        · rename_i more
          exact absurd close (more rest)
      · split
        · rename_i close
          exact absurd close (more _)
        · exact gives_map_iff.2 ⟨_, gives_after_iff.2 read, rfl⟩
  · rename_i bracket brace
    cases h with
    | scalar scalar => exact gives_after_iff.2 (gives_of_scalarAt scalar)
    | array start => exact absurd start (bracket _)
    | object start => exact absurd start (brace _)

theorem readValue_gives_iff {cs rest : List Char} {w : Written} :
    Gives (readValue cs) w rest ↔ ValueAt cs w rest :=
  ⟨valueAt_of_gives, gives_of_valueAt⟩

theorem readValue_number_gives_iff {cs rest : List Char} {n : Numeral} :
    Gives (readValue cs) (.number n) rest ↔ readNumeral (skipBlanks cs) = .ok (n, rest) := by
  rw [readValue_gives_iff]
  constructor
  · intro h
    cases h with
    | scalar scalar => cases scalar with | number read => exact read
  · intro read
    exact .scalar (.number read)

theorem readValue_string_gives_iff {cs rest : List Char} {pieces : List Piece} :
    Gives (readValue cs) (.string pieces) rest ↔
      ∃ inner, skipBlanks cs = '"' :: inner ∧ readPieces inner = .ok (pieces, rest) := by
  rw [readValue_gives_iff]
  constructor
  · intro h
    cases h with
    | scalar scalar => cases scalar with | string start read => exact ⟨_, start, read⟩
  · rintro ⟨inner, start, read⟩
    exact .scalar (.string start read)

theorem readValue_object_gives_iff {cs rest : List Char} {members : List (List Piece × Written)} :
    Gives (readValue cs) (.object members) rest ↔
      ∃ inner, skipBlanks cs = '\x7b' :: inner ∧
        Encloses '\x7d' (readMembers inner) members rest := by
  rw [readValue_gives_iff]
  constructor
  · intro h
    cases h with
    | scalar scalar => nomatch scalar
    | object start encloses => exact ⟨_, start, encloses⟩
  · rintro ⟨inner, start, encloses⟩
    exact .object start encloses

theorem readMembers_skipBlanks {cs rest : List Char} {members : List (List Piece × Written)} :
    Gives (readMembers (skipBlanks cs)) members rest ↔ Gives (readMembers cs) members rest := by
  rw [readMembers_gives_iff, readMembers_gives_iff, skipBlanks_skipBlanks]

theorem Written.parse_eq_ok_iff {cs : List Char} {w : Written} :
    Written.parse cs = .ok w ↔ ∃ rest, Gives (readValue cs) w rest ∧ skipBlanks rest = [] := by
  unfold Written.parse
  cases hr : readValue cs with
  | error e => exact iff_of_false nofun fun ⟨_, h, _⟩ => not_gives_error h
  | ok p =>
    obtain ⟨w', rest⟩ := p
    simp only [gives_ok_iff, bind, Except.bind, List.isEmpty_iff]
    split
    · rename_i blank
      constructor
      · rintro ⟨⟩
        exact ⟨rest.1, ⟨rfl, rfl⟩, blank⟩
      · rintro ⟨_, ⟨rfl, rfl⟩, _⟩
        rfl
    · rename_i blank
      refine iff_of_false nofun ?_
      rintro ⟨_, ⟨rfl, rfl⟩, h⟩
      exact blank h

theorem value?_eq_number_iff {w : Written} {n : Number} :
    w.value? = some (.number n) ↔ ∃ numeral, w = .number numeral ∧ numeral.number = n := by
  cases w <;> simp [Written.value?]

theorem value?_eq_string_iff {w : Written} {s : String} :
    w.value? = some (.string s) ↔
      ∃ pieces text, w = .string pieces ∧ decodePieces pieces = some text ∧
        s = String.ofList text := by
  cases w <;> simp [Written.value?, @eq_comm _ s]

theorem memberValues?_cons_iff {pieces : List Piece} {w : Written}
    {members : List (List Piece × Written)} {values : List (String × Value)} :
    memberValues? ((pieces, w) :: members) = some values ↔
      ∃ key v more, decodePieces pieces = some key ∧ w.value? = some v ∧
        memberValues? members = some more ∧ values = (String.ofList key, v) :: more := by
  rw [memberValues?]
  cases decodePieces pieces <;> cases w.value? <;> cases memberValues? members <;>
    simp [@eq_comm _ values]

/-- The value of a text has the structure that the text is written with. -/
theorem exists_written {cs : List Char} {v : Value} (h : Value.parse? cs = some v) :
    ∃ w, Written.parse cs = .ok w ∧ w.value? = some v := by
  unfold Value.parse? at h
  cases hw : Written.parse cs with
  | error e => simp [hw] at h
  | ok w => exact ⟨w, rfl, by simpa [hw] using h⟩

theorem exists_members {cs : List Char} {members : List (String × Value)}
    (h : Value.parse? cs = some (.object members)) :
    ∃ ws, Written.parse cs = .ok (.object ws) ∧ memberValues? ws = some members := by
  obtain ⟨w, hw, hv⟩ := exists_written h
  cases w <;> simp_all [Written.value?]

theorem exists_elements {cs : List Char} {values : List Value}
    (h : Value.parse? cs = some (.array values)) :
    ∃ ws, Written.parse cs = .ok (.array ws) ∧ elementValues? ws = some values := by
  obtain ⟨w, hw, hv⟩ := exists_written h
  cases w <;> simp_all [Written.value?]

end TreeSpec.Json
