import TreeSpec.Proofs.Json.Reading
import TreeSpec.Proofs.Json.Strings
import TreeSpec.Proofs.Runs

/-!
# Values of JSON and their texts

A value without floating-point numbers is read back from its compact text
(`Value.parse?_text`). Wherever the text of such a value stands, its reader stops behind
it: an integer ends at the comma or bracket that follows, everything else ends by itself.
-/

namespace TreeSpec.Json

/-- Whether a numeral ends in front of a text: no digit, point or exponent follows. -/
def Ends (rest : List Char) : Prop :=
  ∀ c ∈ rest.head?, c.isDigit = false ∧ c ≠ '.' ∧ c ≠ 'e' ∧ c ≠ 'E'

section Numerals

variable {rest : List Char} (ends : Ends rest)

include ends

theorem readDigits_append {run : List Char} (hr : Text.IsRun run) :
    readDigits (run ++ rest) = .ok (run, rest) := by
  have stop : rest.takeWhile Char.isDigit = [] ∧ rest.dropWhile Char.isDigit = rest := by
    cases rest with
    | nil => exact ⟨rfl, rfl⟩
    | cons c rest =>
      have hc := (ends c rfl).1
      simp [hc]
  unfold readDigits
  rw [List.takeWhile_append_of_pos hr.2, List.dropWhile_append_of_pos hr.2, stop.1, stop.2]
  simp [hr.1]

theorem readWhole_decimal (n : Nat) :
    readWhole (Text.decimal n ++ rest) = .ok (Text.decimal n, rest) := by
  by_cases h : n = 0
  · subst h
    have stop : ¬ (rest.head?.map Char.isDigit).getD false = true := by
      cases rest with
      | nil => simp
      | cons c rest => simp [(ends c rfl).1]
    rw [Text.decimal, Nat.toDigits_zero]
    exact if_neg stop
  · rw [readWhole]
    · exact readDigits_append ends (Text.isRun_decimal n)
    · intro cs hz
      obtain ⟨d, tail, hd, _, nonzero⟩ := Text.decimal_eq_cons n
      rw [hd] at hz
      exact nonzero h (List.cons.inj hz).1

theorem readMagnitude_decimal (negative : Bool) (n : Nat) :
    readMagnitude negative (Text.decimal n ++ rest) =
      .ok (⟨negative, Text.decimal n, [], none⟩, rest) := by
  have fraction : readFraction rest = .ok ([], rest) := by
    rw [readFraction]
    rintro cs rfl
    exact (ends '.' rfl).2.1 rfl
  have exponent : readExponent rest = .ok (none, rest) := by
    cases rest with
    | nil => rfl
    | cons c rest => simp [readExponent, (ends c rfl).2.2]
  unfold readMagnitude
  rw [readWhole_decimal ends]
  simp only [bind, Except.bind, fraction, exponent]
  rfl

end Numerals

/-- An integer as it is written. -/
def Numeral.ofInt (n : Int) : Numeral := ⟨n < 0, Text.decimal n.natAbs, [], none⟩

theorem readNumeral_decimalInt {rest : List Char} (ends : Ends rest) (n : Int) :
    readNumeral (Text.decimalInt n ++ rest) = .ok (Numeral.ofInt n, rest) := by
  cases n with
  | ofNat n =>
    have plain : Numeral.ofInt (.ofNat n) = ⟨false, Text.decimal n, [], none⟩ := by
      simp [Numeral.ofInt]
    rw [Text.decimalInt, readNumeral, plain]
    · exact readMagnitude_decimal ends false n
    · intro cs hm
      obtain ⟨d, tail, hd, digit, _⟩ := Text.decimal_eq_cons n
      rw [hd] at hm
      cases hm
      exact absurd digit (by decide)
  | negSucc n =>
    have minus : Numeral.ofInt (.negSucc n) = ⟨true, Text.decimal (n + 1), [], none⟩ := by
      simp [Numeral.ofInt]
    rw [minus]
    exact readMagnitude_decimal ends true (n + 1)

theorem Integer.ofInt?_eq_some_iff {n : Int} {i : Integer} :
    Integer.ofInt? n = some i ↔ n = i.val := by
  obtain ⟨val, lower, upper⟩ := i
  unfold ofInt?
  split
  · simp
  · rename_i outside
    refine iff_of_false nofun ?_
    rintro rfl
    exact outside ⟨lower, upper⟩

theorem Numeral.integer?_ofInt (n : Int) : (ofInt n).integer? = Integer.ofInt? n := by
  simp only [integer?, ofInt, List.isEmpty_nil, Option.isNone_none, Bool.and_self, if_true,
    Text.digitsValue_decimal, decide_eq_true_eq]
  split
  · rename_i negative
    rw [if_neg (by omega)]
    congr 1
    omega
  · congr 1
    omega

/-- The text of an integer stands for this integer, if it is one of JSON. -/
theorem Numeral.number_ofInt_eq_iff {n : Int} {i : Integer} :
    (ofInt n).number = .integer i ↔ n = i.val := by
  rw [← Integer.ofInt?_eq_some_iff, ← integer?_ofInt, number]
  cases (ofInt n).integer? <;> simp

theorem Numeral.number_ofInt (n : Integer) : (ofInt n.val).number = .integer n :=
  number_ofInt_eq_iff.2 rfl

mutual

/-- Whether a value has no floating-point number in it. -/
def Value.IsExact : Value → Prop
  | .number (.floating _) => False
  | .array elements => ElementsExact elements
  | .object members => MembersExact members
  | _ => True

def ElementsExact : List Value → Prop
  | [] => True
  | v :: rest => v.IsExact ∧ ElementsExact rest

def MembersExact : List (String × Value) → Prop
  | [] => True
  | (_, v) :: rest => v.IsExact ∧ MembersExact rest

end

theorem ends_cons {c : Char} (h : c ∈ [',', ']', '\x7d']) (cs : List Char) : Ends (c :: cs) := by
  rintro _ ⟨⟩
  simp only [List.mem_cons, List.not_mem_nil, or_false] at h
  rcases h with rfl | rfl | rfl
  all_goals decide

theorem decimalInt_eq_cons (n : Int) :
    ∃ c cs, Text.decimalInt n = c :: cs ∧ (c = '-' ∨ c.isDigit = true) := by
  cases n with
  | ofNat n =>
    obtain ⟨d, tail, hd, digit, _⟩ := Text.decimal_eq_cons n
    exact ⟨d, tail, hd, .inr digit⟩
  | negSucc n => exact ⟨'-', _, rfl, .inl rfl⟩

theorem isBlank_of_numeral {c : Char} (h : c = '-' ∨ c.isDigit = true) : isBlank c = false := by
  have ne (d : Char) := @ne_of_numeral c d h
  simp [isBlank, ne ' ', ne '\n', ne '\t', ne '\r']

/-- The first character of a value is neither blank nor a closing bracket. -/
theorem Value.text_eq_cons {v : Value} (hv : v.IsExact) :
    ∃ c cs, v.text = c :: cs ∧ isBlank c = false ∧ c ≠ ']' := by
  cases v with
  | null => exact ⟨'n', _, rfl, by decide⟩
  | bool b =>
    cases b with
    | true => exact ⟨'t', _, rfl, by decide⟩
    | false => exact ⟨'f', _, rfl, by decide⟩
  | number n =>
    cases n with
    | integer n =>
      obtain ⟨c, cs, hc, hd⟩ := decimalInt_eq_cons n.val
      exact ⟨c, cs, by rw [Value.text, Number.text, hc], isBlank_of_numeral hd,
        ne_of_numeral hd (by decide) (by decide)⟩
    | floating n => exact hv.elim
  | string s => exact ⟨'"', _, by rw [Value.text, stringText], by decide⟩
  | array elements => exact ⟨'[', _, by rw [Value.text], by decide⟩
  | object members => exact ⟨'\x7b', _, by rw [Value.text], by decide⟩

theorem skipBlanks_elementsText {v : Value} (hv : v.IsExact) (more : List Value)
    (rest : List Char) :
    ∀ next, skipBlanks (elementsText (v :: more) ++ rest) ≠ ']' :: next := by
  obtain ⟨c, cs, hc, blank, close⟩ := Value.text_eq_cons hv
  intro next
  cases more with
  | nil => simp [elementsText, hc, skipBlanks_cons blank, close]
  | cons v' more => simp [elementsText, hc, skipBlanks_cons blank, close]

theorem skipBlanks_membersText (m : String × Value) (more : List (String × Value))
    (rest : List Char) :
    ∀ next, skipBlanks (membersText (m :: more) ++ rest) ≠ '\x7d' :: next := by
  have quote : isBlank '"' = false := by decide
  intro next
  cases more with
  | nil => simp [membersText, stringText, skipBlanks_cons quote]
  | cons m' more => simp [membersText, stringText, skipBlanks_cons quote]

theorem readValue_scalar {c : Char} {cs rest : List Char} {w : Written}
    (h : isBlank c = false) (scalar : ScalarAt (c :: cs) w rest) :
    Gives (readValue (c :: cs)) w rest := by
  rw [readValue_gives_iff]
  refine .scalar ?_
  rw [skipBlanks_cons h]
  exact scalar

theorem readValue_stringText (s : String) (rest : List Char) :
    Gives (readValue (stringText s ++ rest)) (.string (s.toList.map pieceOf)) rest := by
  rw [stringText, List.cons_append, List.append_assoc, readValue_string_gives_iff]
  exact ⟨_, skipBlanks_cons (by decide) _, readPieces_flatMap s.toList rest⟩

theorem readValue_decimalInt (n : Int) {rest : List Char} (ends : Ends rest) :
    Gives (readValue (Text.decimalInt n ++ rest)) (.number (Numeral.ofInt n)) rest := by
  have read := readNumeral_decimalInt ends n
  obtain ⟨c, cs, hc, start⟩ := decimalInt_eq_cons n
  rw [hc] at read ⊢
  rw [readValue_number_gives_iff, List.cons_append, skipBlanks_cons (isBlank_of_numeral start)]
  exact read

theorem readKey_stringText (key : String) (rest : List Char) :
    Gives (readKey (skipBlanks (stringText key ++ ':' :: rest))) (key.toList.map pieceOf) rest := by
  rw [stringText, List.cons_append, List.append_assoc, skipBlanks_cons (by decide)]
  exact readKey_gives_iff.2 ⟨_, _, rfl, readPieces_flatMap key.toList (':' :: rest),
    skipBlanks_cons (by decide) rest⟩

mutual

/-- A value without floating-point numbers is read back from its text. -/
theorem readValue_text : ∀ (v : Value), v.IsExact → ∀ {rest : List Char}, Ends rest →
    ∃ w, Gives (readValue (v.text ++ rest)) w rest ∧ w.value? = some v
  | .null, _, rest, _ => by
    have word : Value.text .null = ['n', 'u', 'l', 'l'] := rfl
    rw [word]
    exact ⟨.null, readValue_scalar (by decide) (.null rfl), rfl⟩
  | .bool true, _, rest, _ => by
    have word : Value.text (.bool true) = ['t', 'r', 'u', 'e'] := rfl
    rw [word]
    exact ⟨.bool true, readValue_scalar (by decide) (.true rfl), rfl⟩
  | .bool false, _, rest, _ => by
    have word : Value.text (.bool false) = ['f', 'a', 'l', 's', 'e'] := rfl
    rw [word]
    exact ⟨.bool false, readValue_scalar (by decide) (.false rfl), rfl⟩
  | .number (.integer n), _, rest, ends => by
    refine ⟨_, readValue_decimalInt n.val ends, ?_⟩
    rw [Written.value?, Numeral.number_ofInt]
  | .string s, _, rest, _ => by
    refine ⟨_, readValue_stringText s rest, ?_⟩
    simp [Written.value?, decodePieces_map_pieceOf]
  | .array [], _, rest, _ => by
    have start : skipBlanks ('[' :: ']' :: rest) = '[' :: ']' :: rest := rfl
    exact ⟨.array [], readValue_gives_iff.2 (.array start (.inl ⟨rfl, rfl⟩)), rfl⟩
  | .array (v :: more), hv, rest, _ => by
    obtain ⟨ws, hws, values⟩ := readElements_text (v :: more) hv (by simp)
    refine ⟨.array ws, ?_, by simp [Written.value?, values]⟩
    rw [Value.text, List.cons_append, List.append_assoc]
    exact readValue_gives_iff.2 (.array (skipBlanks_cons (by decide) _)
      (.inr ⟨skipBlanks_elementsText hv.1 more _, hws⟩))
  | .object [], _, rest, _ => by
    have start : skipBlanks ('\x7b' :: '\x7d' :: rest) = '\x7b' :: '\x7d' :: rest := rfl
    exact ⟨.object [], readValue_gives_iff.2 (.object start (.inl ⟨rfl, rfl⟩)), rfl⟩
  | .object (m :: more), hv, rest, _ => by
    obtain ⟨ws, hws, values⟩ := readMembers_text (m :: more) hv (by simp)
    refine ⟨.object ws, ?_, by simp [Written.value?, values]⟩
    rw [Value.text, List.cons_append, List.append_assoc]
    exact readValue_gives_iff.2 (.object (skipBlanks_cons (by decide) _)
      (.inr ⟨skipBlanks_membersText m more _, hws⟩))

theorem readElements_text : ∀ (elements : List Value), ElementsExact elements → elements ≠ [] →
    ∀ {rest : List Char},
      ∃ ws, Gives (readElements (elementsText elements ++ ']' :: rest)) ws rest ∧
        elementValues? ws = some elements
  | [v], hv, _, rest => by
    have ends : Ends (']' :: rest) := ends_cons (by decide) rest
    obtain ⟨w, hw, hwv⟩ := readValue_text v hv.1 ends
    have close : skipBlanks (']' :: rest) = ']' :: rest := rfl
    refine ⟨[w], readElements_gives_iff.2 ⟨w, _, hw, .inl ⟨close, rfl⟩⟩, ?_⟩
    simp [elementValues?, hwv]
  | v :: v' :: more, hv, _, rest => by
    have ends : Ends (',' :: (elementsText (v' :: more) ++ ']' :: rest)) := ends_cons (by decide) _
    obtain ⟨w, hw, hwv⟩ := readValue_text v hv.1 ends
    obtain ⟨ws, hws, values⟩ := readElements_text (v' :: more) hv.2 (by simp)
    refine ⟨w :: ws, ?_, by simp [elementValues?, hwv, values]⟩
    rw [elementsText, List.append_assoc, List.cons_append]
    · exact readElements_gives_iff.2
        ⟨w, _, hw, .inr ⟨_, ws, skipBlanks_cons (by decide) _, hws, rfl⟩⟩
    · simp

theorem readMembers_text : ∀ (members : List (String × Value)), MembersExact members →
    members ≠ [] → ∀ {rest : List Char},
      ∃ ws, Gives (readMembers (membersText members ++ '\x7d' :: rest)) ws rest ∧
        memberValues? ws = some members
  | [(key, v)], hv, _, rest => by
    have ends : Ends ('\x7d' :: rest) := ends_cons (by decide) rest
    obtain ⟨w, hw, hwv⟩ := readValue_text v hv.1 ends
    have close : skipBlanks ('\x7d' :: rest) = '\x7d' :: rest := rfl
    refine ⟨[(key.toList.map pieceOf, w)], ?_,
      by simp [memberValues?, decodePieces_map_pieceOf, hwv]⟩
    rw [membersText, List.append_assoc, List.cons_append]
    exact readMembers_gives_iff.2
      ⟨_, _, readKey_stringText key _, w, _, hw, .inl ⟨close, rfl⟩⟩
  | (key, v) :: m :: more, hv, _, rest => by
    have ends : Ends (',' :: (membersText (m :: more) ++ '\x7d' :: rest)) := ends_cons (by decide) _
    obtain ⟨w, hw, hwv⟩ := readValue_text v hv.1 ends
    obtain ⟨ws, hws, values⟩ := readMembers_text (m :: more) hv.2 (by simp)
    refine ⟨(key.toList.map pieceOf, w) :: ws, ?_,
      by simp [memberValues?, decodePieces_map_pieceOf, hwv, values]⟩
    rw [membersText, List.append_assoc, List.cons_append, List.append_assoc, List.cons_append]
    · exact readMembers_gives_iff.2 ⟨_, _, readKey_stringText key _, w, _, hw,
        .inr ⟨_, ws, skipBlanks_cons (by decide) _, hws, rfl⟩⟩
    · simp

end

theorem Value.parse?_text {v : Value} (hv : v.IsExact) : Value.parse? v.text = some v := by
  have ends : Ends [] := nofun
  obtain ⟨w, hw, value⟩ := readValue_text v hv ends
  rw [List.append_nil] at hw
  rw [Value.parse?, Written.parse_eq_ok_iff.2 ⟨[], hw, rfl⟩]
  exact value

end TreeSpec.Json
