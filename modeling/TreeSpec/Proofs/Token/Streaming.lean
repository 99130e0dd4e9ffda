import TreeSpec.Proofs.Json.Reading
import TreeSpec.Proofs.Json.Strings
import TreeSpec.Token.OfText

/-!
# Tokens read while the text is read

Reading a token from a text and reading the text as JSON go through it in step. Each reader
of a token gives something just when the reader of JSON gives the same part of the text and
the draft takes it (`Draft.readMember_gives_iff`, `Draft.readEntries_gives_iff`), so a text
whose value is an object holds a token just when the members of the object make one
(`ofText_object_iff`). Only the errors depend on how far the text has been read.
-/

namespace TreeSpec.Token

open Json

section Readings

variable {α β : Type} {cs rest : List Char} {a : α} {b : β}

theorem gives_ofRead_iff {read : ReadFrom α cs} :
    Gives (Reading.ofRead read) a rest ↔ Gives read a rest := by
  cases read with
  | error e => exact iff_of_false not_gives_error not_gives_error
  | ok p => exact gives_ok_iff.trans gives_ok_iff.symm

theorem gives_andThen_iff {reading : Reading α cs}
    {next : α → (rest : List Char) → Reading β rest} :
    Gives (reading.andThen next) b rest ↔
      ∃ a mid, Gives reading a mid ∧ Gives (next a mid) b rest := by
  cases reading with
  | error e => exact iff_of_false not_gives_error fun ⟨_, _, h, _⟩ => not_gives_error h
  | ok p =>
    obtain ⟨a, mid⟩ := p
    constructor
    · intro h
      exact ⟨a, mid.1, gives_ok_iff.2 ⟨rfl, rfl⟩, gives_after_iff.1 h⟩
    · rintro ⟨_, _, h, hn⟩
      obtain ⟨rfl, rfl⟩ := gives_ok_iff.1 h
      exact gives_after_iff.2 hn

end Readings

theorem readString_gives_iff {cs rest : List Char} {s : String} :
    Gives (readString cs) s rest ↔
      ∃ pieces text, readPieces cs = .ok (pieces, rest) ∧ decodePieces pieces = some text ∧
        s = String.ofList text := by
  have read : Gives (readString cs) s rest ↔
      ∃ text, readChars none cs = .ok (text, rest) ∧ s = String.ofList text := by
    unfold readString
    split
    · rename_i h
      simp [h, not_gives_error]
    · rename_i h
      exact gives_ok_of_read h
  rw [read]
  simp only [@readChars_eq_ok_iff none cs _ rest nofun, pending, List.nil_append]
  constructor
  · rintro ⟨text, ⟨pieces, hp, hd⟩, rfl⟩
    exact ⟨pieces, text, hp, hd, rfl⟩
  · rintro ⟨pieces, text, hp, hd, rfl⟩
    exact ⟨text, ⟨pieces, hp, hd⟩, rfl⟩

theorem exists_integer_of_level {n : Number} {level : Size} (h : levelOfNumber n = .ok level) :
    ∃ i, n = .integer i := by
  cases n with
  | integer i => exact ⟨i, rfl⟩
  | floating n => nomatch h

theorem readNumber_integer_gives_iff {cs rest : List Char} {i : Integer} :
    Gives (readNumber cs) (.integer i) rest ↔
      ∃ n, readNumeral cs = .ok (n, rest) ∧ n.number = .integer i := by
  unfold readNumber
  split
  · rename_i h
    simp [h, not_gives_error]
  · rename_i n mid h
    split
    · rename_i i' hi
      rw [gives_ok_iff]
      constructor
      · rintro ⟨⟨⟩, rfl⟩
        exact ⟨n, h, hi⟩
      · rintro ⟨_, h', hi'⟩
        cases h.symm.trans h'
        exact ⟨hi.symm.trans hi', rfl⟩
    · rename_i n' hf
      have other : ¬ ∃ n, readNumeral cs = .ok (n, rest) ∧ n.number = .integer i := by
        rintro ⟨_, h', hi⟩
        cases h.symm.trans h'
        cases hf.symm.trans hi
      split
      · exact iff_of_false (by simp [gives_ok_iff]) other
      · exact iff_of_false not_gives_error other

theorem startsNumeral_iff {c : Char} :
    startsNumeral c = true ↔ c = '-' ∨ c.isDigit = true := by
  simp [startsNumeral]

theorem readLevel_gives_iff {cs rest : List Char} {level : Size} :
    Gives (readLevel cs) level rest ↔
      ∃ n, readNumeral cs = .ok (n, rest) ∧ levelOfNumber n.number = .ok level := by
  cases cs with
  | nil => exact iff_of_false not_gives_error fun ⟨_, h, _⟩ => nomatch h
  | cons c cs =>
    rw [readLevel]
    by_cases start : startsNumeral c = true
    · rw [if_pos start]
      constructor
      · intro h
        cases hr : readNumber (c :: cs) with
        | error e => simp [hr, not_gives_error] at h
        | ok p =>
          obtain ⟨n, mid⟩ := p
          cases hl : levelOfNumber n with
          | error e => simp [hr, hl, Except.mapError, Except.map, not_gives_error] at h
          | ok level' =>
            simp only [hr, hl, Except.mapError, Except.map, gives_ok_iff] at h
            obtain ⟨rfl, rfl⟩ := h
            obtain ⟨i, rfl⟩ := exists_integer_of_level hl
            obtain ⟨n, hn, hi⟩ := readNumber_integer_gives_iff.1 ⟨mid.2, hr⟩
            exact ⟨n, hn, hi ▸ hl⟩
      · rintro ⟨n, hn, hl⟩
        obtain ⟨i, hi⟩ := exists_integer_of_level hl
        obtain ⟨shorter, hr⟩ := readNumber_integer_gives_iff.2 ⟨n, hn, hi⟩
        rw [hi] at hl
        simp only [hr, hl]
        exact gives_ok_iff.2 ⟨rfl, rfl⟩
    · rw [if_neg start]
      refine iff_of_false not_gives_error ?_
      rintro ⟨n, h, _⟩
      exact start (startsNumeral_iff.2 (readNumeral_start h))

theorem readText_gives_iff {cs rest : List Char} {s : String} :
    Gives (readText cs) s rest ↔
      ∃ inner, cs = '"' :: inner ∧ ∃ pieces text, readPieces inner = .ok (pieces, rest) ∧
        decodePieces pieces = some text ∧ s = String.ofList text := by
  unfold readText
  split
  · rename_i inner
    simp [gives_after_iff, gives_ofRead_iff, readString_gives_iff]
  · rename_i quote
    refine iff_of_false not_gives_error ?_
    rintro ⟨inner, h, _⟩
    exact quote inner h

theorem readColon_gives_iff {cs rest : List Char} :
    Gives (readColon cs) () rest ↔ skipBlanks cs = ':' :: rest := by
  unfold readColon
  split
  · rename_i h
    simp [gives_ok_iff, h]
  · rename_i colon
    exact iff_of_false not_gives_error (colon rest)

namespace Draft

theorem readValue_tabLevel_iff {d d' : Draft} {v : Value} :
    d.readValue .tabLevel v = .ok d' ↔
      ∃ n level, v = .number n ∧ levelOfNumber n = .ok level ∧ d' = d.withTabLevel level := by
  cases v with
  | number n =>
    simp only [readValue]
    cases hl : levelOfNumber n <;> simp [hl, Except.map, eq_comm]
  | _ => simp [readValue]

theorem readValue_text_iff {d d' : Draft} {field : Field} {v : Value} :
    d.readValue (.text field) v = .ok d' ↔ ∃ s, v = .string s ∧ d' = d.withText field s := by
  cases v with
  | string s => simp [readValue, eq_comm]
  | _ => simp [readValue]

theorem readMember_gives_iff {d d' : Draft} {member : Member} {cs rest : List Char} :
    Gives (d.readMember member cs) d' rest ↔
      ∃ w v, Gives (Json.readValue cs) w rest ∧ w.value? = some v ∧
        d.readValue member v = .ok d' := by
  cases member with
  | tabLevel =>
    rw [readMember, gives_after_iff, gives_map_iff]
    simp only [readLevel_gives_iff, readValue_tabLevel_iff]
    constructor
    · rintro ⟨level, ⟨n, hn, hl⟩, rfl⟩
      exact ⟨.number n, _, readValue_number_gives_iff.2 hn, rfl, n.number, level, rfl, hl, rfl⟩
    · rintro ⟨w, _, hw, hv, n, level, rfl, hl, rfl⟩
      obtain ⟨numeral, rfl, rfl⟩ := value?_eq_number_iff.1 hv
      exact ⟨level, ⟨numeral, readValue_number_gives_iff.1 hw, hl⟩, rfl⟩
  | text field =>
    rw [readMember, gives_after_iff, gives_map_iff]
    simp only [readText_gives_iff, readValue_text_iff]
    constructor
    · rintro ⟨s, ⟨inner, hi, pieces, text, hp, hd, rfl⟩, rfl⟩
      refine ⟨.string pieces, _, readValue_string_gives_iff.2 ⟨inner, hi, hp⟩, ?_, _, rfl, rfl⟩
      rw [Written.value?, hd, Option.map_some]
    · rintro ⟨w, _, hw, hv, s, rfl, rfl⟩
      obtain ⟨pieces, text, rfl, hd, rfl⟩ := value?_eq_string_iff.1 hv
      obtain ⟨inner, hi, hp⟩ := readValue_string_gives_iff.1 hw
      exact ⟨_, ⟨inner, hi, pieces, text, hp, hd, rfl⟩, rfl⟩

/-- Whether a draft takes a member that is written in a text, and what it becomes: a member of
a token must be new and have a value that fits, and all other members are passed over. -/
def Takes (d : Draft) (key : String) (w : Written) (d' : Draft) : Prop :=
  match Member.ofKey? key with
  | none => d' = d
  | some member =>
    d.has member = false ∧ ∃ v, w.value? = some v ∧ d.readValue member v = .ok d'

theorem readNamed_gives_iff {d d' : Draft} {key : String} {cs rest : List Char} :
    Gives (d.readNamed key cs) d' rest ↔
      ∃ start, skipBlanks cs = ':' :: start ∧
        ∃ w, Gives (Json.readValue start) w rest ∧ d.Takes key w d' := by
  unfold readNamed Takes
  cases Member.ofKey? key with
  | none =>
    simp only [gives_andThen_iff, gives_map_iff (f := fun _ => d), gives_ofRead_iff]
    constructor
    · rintro ⟨_, start, colon, w, hw, rfl⟩
      exact ⟨start, readColon_gives_iff.1 colon, w, hw, rfl⟩
    · rintro ⟨start, colon, w, hw, rfl⟩
      exact ⟨(), start, readColon_gives_iff.2 colon, w, hw, rfl⟩
  | some member =>
    dsimp only
    cases hd : d.has member with
    | true => exact iff_of_false not_gives_error (by simp)
    | false =>
      simp only [if_false, Bool.false_eq_true, gives_andThen_iff, readMember_gives_iff, true_and]
      constructor
      · rintro ⟨_, start, colon, w, v, hw, hv⟩
        exact ⟨start, readColon_gives_iff.1 colon, w, hw, v, hv⟩
      · rintro ⟨start, colon, w, hw, v, hv⟩
        exact ⟨(), start, readColon_gives_iff.2 colon, w, v, hw, hv⟩

theorem readEntry_gives_iff {d d' : Draft} {cs rest : List Char} :
    Gives (d.readEntry cs) d' rest ↔
      ∃ pieces start, Gives (readKey cs) pieces start ∧
        ∃ w, Gives (Json.readValue start) w rest ∧
          ∃ key, decodePieces pieces = some key ∧ d.Takes (String.ofList key) w d' := by
  unfold readEntry
  split
  · rename_i inner
    simp only [gives_after_iff, gives_andThen_iff, gives_ofRead_iff, readString_gives_iff,
      readNamed_gives_iff, readKey_gives_iff]
    constructor
    · rintro ⟨_, mid, ⟨pieces, key, hp, hd, rfl⟩, start, colon, w, hw, takes⟩
      exact ⟨pieces, start, ⟨inner, mid, rfl, hp, colon⟩, w, hw, key, hd, takes⟩
    · rintro ⟨pieces, start, ⟨_, mid, ⟨⟩, hp, colon⟩, w, hw, key, hd, takes⟩
      exact ⟨_, mid, ⟨pieces, key, hp, hd, rfl⟩, start, colon, w, hw, takes⟩
  · rename_i quote
    refine iff_of_false not_gives_error ?_
    rintro ⟨pieces, start, hk, _⟩
    obtain ⟨inner, _, rfl, _⟩ := readKey_gives_iff.1 hk
    exact quote inner rfl

/-- Whether a draft takes the members that are written in a text one after the other. -/
def TakesAll : Draft → List (List Piece × Written) → Draft → Prop
  | d, [], d' => d' = d
  | d, (pieces, w) :: members, d' =>
    ∃ key next, decodePieces pieces = some key ∧ d.Takes (String.ofList key) w next ∧
      next.TakesAll members d'

theorem readEntries_step_iff {d d' : Draft} {cs rest : List Char} :
    Gives (d.readEntries cs) d' rest ↔
      ∃ next mid, Gives (d.readEntry (skipBlanks cs)) next mid ∧
        (skipBlanks mid = '\x7d' :: rest ∧ d' = next ∨
          ∃ more, skipBlanks mid = ',' :: more ∧ Gives (next.readEntries more) d' rest) := by
  rw [readEntries, gives_bind_iff]
  simp only [gives_after_iff]
  refine exists_congr fun next => exists_congr fun mid => and_congr_right fun read => ?_
  have shorter := Nat.lt_of_lt_of_le read.1 (length_skipBlanks_le cs)
  refine (forall_prop_of_true shorter).trans ?_
  split
  · rename_i hb
    simp [gives_ok_iff, hb, eq_comm, and_comm]
  · rename_i hb
    simp [gives_after_iff, hb]
  · rename_i brace comma
    refine iff_of_false not_gives_error ?_
    rintro (⟨hb, _⟩ | ⟨_, hb, _⟩)
    · exact brace _ hb
    · exact comma _ hb

/-- Reading the members of a token takes exactly what reading them as JSON gives. -/
theorem readEntries_gives_iff {d d' : Draft} {cs rest : List Char} :
    Gives (d.readEntries cs) d' rest ↔
      ∃ members, Gives (readMembers cs) members rest ∧ d.TakesAll members d' := by
  -- By the length of the text: what is left behind a comma is shorter.
  induction hn : cs.length using Nat.strongRecOn generalizing d cs with
  | ind n ih =>
    subst hn
    have behind {mid more : List Char} (hm : mid.length < (skipBlanks cs).length)
        (hb : skipBlanks mid = ',' :: more) : more.length < cs.length := by
      have := length_skipBlanks_le cs
      have := length_skipBlanks_le mid
      simp only [hb, List.length_cons] at this
      omega
    rw [readEntries_step_iff]
    simp only [readEntry_gives_iff]
    constructor
    · rintro ⟨next, mid, ⟨pieces, start, hk, w, hw, key, hd, takes⟩, close⟩
      rcases close with ⟨hb, rfl⟩ | ⟨more, hb, entries⟩
      · refine ⟨[(pieces, w)], ?_, key, d', hd, takes, rfl⟩
        exact readMembers_gives_iff.2 ⟨pieces, start, hk, w, mid, hw, .inl ⟨hb, rfl⟩⟩
      · have shorter : mid.length < (skipBlanks cs).length := Nat.lt_trans hw.1 hk.1
        obtain ⟨members, hm, all⟩ := (ih _ (behind shorter hb) rfl).1 entries
        refine ⟨(pieces, w) :: members, ?_, key, next, hd, takes, all⟩
        exact readMembers_gives_iff.2
          ⟨pieces, start, hk, w, mid, hw, .inr ⟨more, members, hb, hm, rfl⟩⟩
    · rintro ⟨_, read, all⟩
      obtain ⟨pieces, start, hk, w, mid, hw, close⟩ := readMembers_gives_iff.1 read
      rcases close with ⟨hb, rfl⟩ | ⟨more, members, hb, hm, rfl⟩
      · obtain ⟨key, _, hd, takes, rfl⟩ := all
        exact ⟨d', mid, ⟨pieces, start, hk, w, hw, key, hd, takes⟩, .inl ⟨hb, rfl⟩⟩
      · obtain ⟨key, next, hd, takes, all⟩ := all
        have shorter : mid.length < (skipBlanks cs).length := Nat.lt_trans hw.1 hk.1
        have entries := (ih _ (behind shorter hb) rfl).2 ⟨members, hm, all⟩
        exact ⟨next, mid, ⟨pieces, start, hk, w, hw, key, hd, takes⟩, .inr ⟨more, hb, entries⟩⟩

end Draft

theorem bind_eq_ok_iff {read : Except ε α} {next : α → Except ε β} {b : β} :
    (read >>= next) = .ok b ↔ ∃ a, read = .ok a ∧ next a = .ok b := by
  cases read <;> simp [bind, Except.bind]

theorem Draft.finish_eq_ok_iff {d : Draft} {left rest : List Char} {t : Token} :
    (d.token.mapError ReadError.content >>= fun t' => pure (t', left)) = .ok (t, rest) ↔
      d.token = .ok t ∧ left = rest := by
  cases d.token <;> simp [Except.mapError, bind, Except.bind, pure, Except.pure]

theorem readObject_eq_ok_iff {cs rest : List Char} {t : Token} :
    readObject cs = .ok (t, rest) ↔
      ∃ members, Encloses '\x7d' (readMembers cs) members rest ∧
        ∃ d, Draft.empty.TakesAll members d ∧ d.token = .ok t := by
  unfold readObject Encloses
  split
  · rename_i left hb
    rw [pure_bind, Draft.finish_eq_ok_iff]
    constructor
    · rintro ⟨ht, rfl⟩
      exact ⟨[], .inl ⟨hb, rfl⟩, Draft.empty, rfl, ht⟩
    · rintro ⟨members, ⟨hb', rfl⟩ | ⟨brace, _⟩, d, all, ht⟩
      · cases hb.symm.trans hb'
        cases all
        exact ⟨ht, rfl⟩
      · exact absurd hb (brace left)
  · rename_i brace
    rw [bind_eq_ok_iff]
    constructor
    · rintro ⟨⟨d, left⟩, read, finish⟩
      obtain ⟨ht, rfl⟩ := Draft.finish_eq_ok_iff.1 finish
      have entries : Gives (Draft.empty.readEntries (skipBlanks cs)) d left := by
        cases hr : Draft.empty.readEntries (skipBlanks cs) with
        | error e => simp [hr, Except.map] at read
        | ok p =>
          simp only [hr, Except.map, Except.ok.injEq, Prod.mk.injEq] at read
          exact gives_ok_iff.2 read
      obtain ⟨members, hm, all⟩ := Draft.readEntries_gives_iff.1 entries
      exact ⟨members, .inr ⟨brace, readMembers_skipBlanks.1 hm⟩, d, all, ht⟩
    · rintro ⟨members, ⟨hb, _⟩ | ⟨_, hm⟩, d, all, ht⟩
      · exact absurd hb (brace rest)
      · obtain ⟨shorter, read⟩ :=
          Draft.readEntries_gives_iff.2 ⟨members, readMembers_skipBlanks.2 hm, all⟩
        refine ⟨(d, rest), ?_, Draft.finish_eq_ok_iff.2 ⟨ht, rfl⟩⟩
        rw [read]
        rfl

/-- A text whose value is an object holds a token just when the members of the object, taken
in the order in which they are written, make one. -/
theorem ofText_object_iff {text : String} {t : Token} {members : List (List Piece × Written)}
    (h : Written.parse text.toList = .ok (.object members)) :
    ofText text = .ok t ↔ ∃ d, Draft.empty.TakesAll members d ∧ d.token = .ok t := by
  obtain ⟨rest, hw, blank⟩ := Written.parse_eq_ok_iff.1 h
  obtain ⟨inner, hb, encloses⟩ := readValue_object_gives_iff.1 hw
  have object : ofText text = (readObject inner >>= fun p =>
      if (skipBlanks p.2).isEmpty then pure p.1 else throw (.fault .malformed)) := by
    unfold ofText
    rw [hb]
    rfl
  rw [object, bind_eq_ok_iff]
  constructor
  · rintro ⟨⟨t', rest'⟩, hr, finish⟩
    obtain ⟨members', encloses', made⟩ := readObject_eq_ok_iff.1 hr
    -- The object is read only in one way, so its members are those of the value.
    obtain ⟨⟨⟩, rfl⟩ := gives_unique hw (readValue_object_gives_iff.2 ⟨inner, hb, encloses'⟩)
    dsimp only at finish
    rw [if_pos (List.isEmpty_iff.2 blank)] at finish
    cases finish
    exact made
  · rintro ⟨d, all, ht⟩
    refine ⟨(t, rest), readObject_eq_ok_iff.2 ⟨members, encloses, d, all, ht⟩, ?_⟩
    exact if_pos (List.isEmpty_iff.2 blank)

end TreeSpec.Token
