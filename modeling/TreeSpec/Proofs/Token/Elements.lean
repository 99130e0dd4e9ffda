import TreeSpec.Proofs.Token.Streaming

/-!
# Tokens read from arrays

The elements of an array are read for the members of a token in their order. As with objects,
reading them goes in step with reading the text as JSON, so a text whose value is an array holds
a token just when its elements make one (`ofText_array_iff`). A text whose value is neither an
array nor an object holds none (`ofText_ne_ok_of_scalar`).
-/

namespace TreeSpec.Json

variable {cs rest : List Char}

theorem readValue_skipBlanks {w : Written} :
    Gives (readValue (skipBlanks cs)) w rest ↔ Gives (readValue cs) w rest := by
  have blanks : ValueAt (skipBlanks cs) w rest ↔ ValueAt cs w rest := by
    constructor
    all_goals
      intro h
      cases h with
      | scalar scalar => exact .scalar (by simpa only [skipBlanks_skipBlanks] using scalar)
      | array start encloses =>
        exact .array (by simpa only [skipBlanks_skipBlanks] using start) encloses
      | object start encloses =>
        exact .object (by simpa only [skipBlanks_skipBlanks] using start) encloses
  rw [readValue_gives_iff, readValue_gives_iff, blanks]

theorem readValue_array_gives_iff {elements : List Written} :
    Gives (readValue cs) (.array elements) rest ↔
      ∃ inner, skipBlanks cs = '[' :: inner ∧ Encloses ']' (readElements inner) elements rest := by
  rw [readValue_gives_iff]
  constructor
  · intro h
    cases h with
    | scalar scalar => nomatch scalar
    | array start encloses => exact ⟨_, start, encloses⟩
  · rintro ⟨inner, start, encloses⟩
    exact .array start encloses

/-- No value starts with the bracket that closes an array. -/
theorem ne_close_of_readValue {w : Written} (h : Gives (readValue cs) w rest) :
    ∀ next, skipBlanks cs ≠ ']' :: next := by
  intro next close
  cases readValue_gives_iff.1 h with
  | scalar scalar => exact not_scalarAt_bracket (by decide) (close ▸ scalar)
  | array start => cases close.symm.trans start
  | object start => cases close.symm.trans start

/-- How an array goes on behind one of its elements: it ends, or further elements follow. -/
def GoesOn (cs : List Char) (elements : List Written) (rest : List Char) : Prop :=
  skipBlanks cs = ']' :: rest ∧ elements = [] ∨
    ∃ next, skipBlanks cs = ',' :: next ∧ Gives (readElements next) elements rest

theorem readElements_goesOn_iff {elements : List Written} :
    Gives (readElements cs) elements rest ↔
      ∃ element mid more, Gives (readValue cs) element mid ∧ GoesOn mid more rest ∧
        elements = element :: more := by
  rw [readElements_gives_iff]
  constructor
  · rintro ⟨element, mid, read, ⟨close, rfl⟩ | ⟨next, more, comma, readMore, rfl⟩⟩
    · exact ⟨element, mid, [], read, .inl ⟨close, rfl⟩, rfl⟩
    · exact ⟨element, mid, more, read, .inr ⟨next, comma, readMore⟩, rfl⟩
  · rintro ⟨element, mid, more, read, ⟨close, rfl⟩ | ⟨next, comma, readMore⟩, rfl⟩
    · exact ⟨element, mid, read, .inl ⟨close, rfl⟩⟩
    · exact ⟨element, mid, read, .inr ⟨next, more, comma, readMore, rfl⟩⟩

end TreeSpec.Json

namespace TreeSpec.Token

open Json

namespace Draft

variable {d d' : Draft} {cs rest : List Char} {member : Member} {members : List Member}

theorem readMember_skipBlanks :
    Gives (d.readMember member (skipBlanks cs)) d' rest ↔
      Gives (d.readMember member cs) d' rest := by
  simp only [readMember_gives_iff, readValue_skipBlanks]

/-- What is left behind a member. -/
theorem readMember_then_iff (next : Draft → List Char → Except ReadError (Draft × List Char)) :
    (d.readMember member cs >>= fun p => next p.1 p.2.1) = .ok (d', rest) ↔
      ∃ d₁ mid, Gives (d.readMember member cs) d₁ mid ∧ next d₁ mid = .ok (d', rest) := by
  rw [bind_eq_ok_iff]
  constructor
  · rintro ⟨⟨d₁, mid⟩, read, h⟩
    exact ⟨d₁, mid.1, read ▸ gives_ok_iff.2 ⟨rfl, rfl⟩, h⟩
  · rintro ⟨d₁, mid, ⟨shorter, read⟩, h⟩
    exact ⟨(d₁, ⟨mid, shorter⟩), read, h⟩

theorem readElements_done_iff :
    d.readElements false [] cs = .ok (d', rest) ↔ skipBlanks cs = ']' :: rest ∧ d' = d := by
  rw [readElements.eq_def]
  dsimp only
  split
  · rename_i close
    simp [close, and_comm, eq_comm]
  · rename_i close
    exact iff_of_false nofun fun h => close _ h.1

theorem readElements_first_iff :
    d.readElements true (member :: members) cs = .ok (d', rest) ↔
      ∃ d₁ mid, Gives (d.readMember member cs) d₁ mid ∧
        d₁.readElements false members mid = .ok (d', rest) := by
  rw [readElements.eq_def]
  dsimp only
  split
  · rename_i close _
    refine iff_of_false nofun ?_
    rintro ⟨d₁, mid, read, _⟩
    obtain ⟨w, _, value, _⟩ := readMember_gives_iff.1 read
    exact ne_close_of_readValue value _ close
  · contradiction
  · contradiction
  · simp only [readMember_then_iff (fun d cs => d.readElements false members cs),
      readMember_skipBlanks]
  · contradiction

theorem readElements_next_iff :
    d.readElements false (member :: members) cs = .ok (d', rest) ↔
      skipBlanks cs = ']' :: rest ∧ d' = d ∨
        ∃ next, skipBlanks cs = ',' :: next ∧
          ∃ d₁ mid, Gives (d.readMember member next) d₁ mid ∧
            d₁.readElements false members mid = .ok (d', rest) := by
  rw [readElements.eq_def]
  dsimp only
  split
  · contradiction
  · rename_i close _
    simp [close, and_comm, eq_comm]
  · rename_i next comma _
    simp only [comma, List.cons.injEq, Char.reduceEq, false_and, true_and, false_or,
      exists_eq_left']
    split
    · rename_i close
      refine iff_of_false nofun ?_
      rintro ⟨d₁, mid, read, _⟩
      obtain ⟨w, _, value, _⟩ := readMember_gives_iff.1 read
      obtain ⟨_, close⟩ := List.head?_eq_some_iff.1 close
      exact ne_close_of_readValue value _ close
    · exact readMember_then_iff fun d cs => d.readElements false members cs
  · contradiction
  · rename_i close comma
    refine iff_of_false nofun ?_
    rintro (⟨h, _⟩ | ⟨_, h, _⟩)
    · exact close _ h
    · exact comma _ h

/-- Whether a draft takes the elements that are written in a text for the given members, one
after the other. There may be more members than elements. -/
def TakesInOrder : Draft → List Member → List Written → Draft → Prop
  | d, _, [], d' => d' = d
  | _, [], _ :: _, _ => False
  | d, member :: members, w :: ws, d' =>
    ∃ v next, w.value? = some v ∧ d.readValue member v = .ok next ∧ next.TakesInOrder members ws d'

/-- Reading the members of a token behind an element takes exactly what reading the elements as
JSON gives. -/
theorem readElements_gives_iff :
    d.readElements false members cs = .ok (d', rest) ↔
      ∃ ws, GoesOn cs ws rest ∧ d.TakesInOrder members ws d' := by
  induction members generalizing d cs with
  | nil =>
    rw [readElements_done_iff]
    constructor
    · rintro ⟨close, rfl⟩
      exact ⟨[], .inl ⟨close, rfl⟩, rfl⟩
    · rintro ⟨ws, ⟨close, rfl⟩ | ⟨next, comma, read⟩, takes⟩
      · exact ⟨close, takes⟩
      · obtain ⟨_, _, _, _, _, rfl⟩ := readElements_goesOn_iff.1 read
        exact takes.elim
  | cons member members ih =>
    simp only [readElements_next_iff, readMember_gives_iff, ih]
    constructor
    · rintro (⟨close, rfl⟩ | ⟨next, comma, d₁, mid, ⟨w, v, hw, hv, hd⟩, ws, goesOn, takes⟩)
      · exact ⟨[], .inl ⟨close, rfl⟩, rfl⟩
      · refine ⟨w :: ws, .inr ⟨next, comma, ?_⟩, v, d₁, hv, hd, takes⟩
        exact readElements_goesOn_iff.2 ⟨w, mid, ws, hw, goesOn, rfl⟩
    · rintro ⟨ws, ⟨close, rfl⟩ | ⟨next, comma, read⟩, takes⟩
      · exact .inl ⟨close, takes⟩
      · obtain ⟨w, mid, ws, hw, goesOn, rfl⟩ := readElements_goesOn_iff.1 read
        obtain ⟨v, d₁, hv, hd, takes⟩ := takes
        exact .inr ⟨next, comma, d₁, mid, ⟨w, v, hw, hv, hd⟩, ws, goesOn, takes⟩

theorem readElements_start_iff :
    d.readElements true (member :: members) cs = .ok (d', rest) ↔
      ∃ ws, Gives (Json.readElements cs) ws rest ∧ d.TakesInOrder (member :: members) ws d' := by
  simp only [readElements_first_iff, readMember_gives_iff, readElements_gives_iff]
  constructor
  · rintro ⟨d₁, mid, ⟨w, v, hw, hv, hd⟩, ws, goesOn, takes⟩
    exact ⟨w :: ws, readElements_goesOn_iff.2 ⟨w, mid, ws, hw, goesOn, rfl⟩, v, d₁, hv, hd, takes⟩
  · rintro ⟨_, read, takes⟩
    obtain ⟨w, mid, ws, hw, goesOn, rfl⟩ := readElements_goesOn_iff.1 read
    obtain ⟨v, d₁, hv, hd, takes⟩ := takes
    exact ⟨d₁, mid, ⟨w, v, hw, hv, hd⟩, ws, goesOn, takes⟩

end Draft

theorem mapError_eq_ok_iff {read : Except ε α} {f : ε → ε'} {a : α} :
    read.mapError f = .ok a ↔ read = .ok a := by
  cases read <;> simp [Except.mapError]

/-- A text whose value is an array holds a token just when the elements of the array, taken for
the members of a token in their order, make one. -/
theorem ofText_array_iff {text : String} {t : Token} {elements : List Written}
    (h : Written.parse text.toList = .ok (.array elements)) :
    ofText text = .ok t ↔
      ∃ d, Draft.empty.TakesInOrder Member.all elements d ∧ d.token = .ok t := by
  obtain ⟨rest, hw, blank⟩ := Written.parse_eq_ok_iff.1 h
  obtain ⟨inner, hb, encloses⟩ := readValue_array_gives_iff.1 hw
  have array : ofText text = (Draft.empty.readElements true Member.all inner >>= fun p =>
      p.1.token.mapError ReadError.content >>= fun t =>
        if (skipBlanks p.2).isEmpty then pure t else throw (.fault .malformed)) := by
    unfold ofText
    rw [hb]
    rfl
  rw [array, bind_eq_ok_iff]
  constructor
  · rintro ⟨⟨d, rest'⟩, read, finish⟩
    obtain ⟨t', token, finish⟩ := bind_eq_ok_iff.1 finish
    obtain ⟨elements', read, takes⟩ := Draft.readElements_start_iff.1 read
    have more : ∀ next, skipBlanks inner ≠ ']' :: next := by
      obtain ⟨_, _, _, first, _⟩ := readElements_goesOn_iff.1 read
      exact ne_close_of_readValue first
    -- The array is read only in one way, so its elements are those of the value.
    obtain ⟨⟨⟩, rfl⟩ := gives_unique hw (readValue_array_gives_iff.2 ⟨inner, hb, .inr ⟨more, read⟩⟩)
    rw [if_pos (List.isEmpty_iff.2 blank)] at finish
    cases finish
    exact ⟨d, takes, mapError_eq_ok_iff.1 token⟩
  · rintro ⟨d, takes, token⟩
    rcases encloses with ⟨_, rfl⟩ | ⟨_, read⟩
    · cases takes
      nomatch token
    · refine ⟨(d, rest), Draft.readElements_start_iff.2 ⟨elements, read, takes⟩, ?_⟩
      rw [mapError_eq_ok_iff.2 token]
      exact if_pos (List.isEmpty_iff.2 blank)

/-- A text whose value is neither an array nor an object holds no token. -/
theorem ofText_ne_ok_of_scalar {text : String} {t : Token} {w : Written}
    (h : Written.parse text.toList = .ok w) (array : ∀ elements, w ≠ .array elements)
    (object : ∀ members, w ≠ .object members) : ofText text ≠ .ok t := by
  obtain ⟨rest, hw, _⟩ := Written.parse_eq_ok_iff.1 h
  cases readValue_gives_iff.1 hw with
  | array => exact absurd rfl (array _)
  | object => exact absurd rfl (object _)
  | scalar scalar =>
    unfold ofText
    split
    · rename_i start
      exact absurd (start ▸ scalar) (not_scalarAt_bracket (by decide))
    · rename_i start
      exact absurd (start ▸ scalar) (not_scalarAt_bracket (by decide))
    · nofun

end TreeSpec.Token
