import TreeSpec.Proofs.Canonical
import TreeSpec.Proofs.Machine
import TreeSpec.Proofs.Token.Shapes

/-!
# The depth of a token

A token is given its depth by name in an object, as the first element of an array, or as a machine
integer. Each way takes the same integers, those that are sizes, and gives the token of this depth
(`depths_agree`): a numeral of JSON stands for the integer that it writes or for none, and a machine
integer keeps its number when it becomes a size.
-/

namespace TreeSpec

open Text

namespace Text

/-- The plain decimal texts of integers: a run without a leading zero, with a minus in front of it
if the integer is negative. -/
inductive WritesPlainly : List Char → Int → Prop
  | natural {run : List Char} (plain : isDecimal run = true) :
      WritesPlainly run (digitsValue run)
  | negative {run : List Char} (plain : isDecimal run = true) (nonzero : run ≠ ['0']) :
      WritesPlainly ('-' :: run) (-digitsValue run)

theorem writesPlainly_iff {text : List Char} {n : Int} :
    WritesPlainly text n ↔ text = decimalInt n := by
  constructor
  · intro h
    cases h with
    | natural plain => exact (decimal_digitsValue plain).symm
    | @negative run plain nonzero =>
      have written := decimal_digitsValue plain
      cases value : digitsValue run with
      | zero =>
        rw [value] at written
        exact absurd written.symm nonzero
      | succ k =>
        rw [value] at written
        rw [← written]
        rfl
  · rintro rfl
    cases n with
    | ofNat k =>
      have natural := WritesPlainly.natural (isDecimal_decimal k)
      rwa [digitsValue_decimal] at natural
    | negSucc k =>
      have nonzero : decimal (k + 1) ≠ ['0'] := by
        intro zero
        exact head?_decimal (Nat.succ_ne_zero k) (congrArg List.head? zero)
      have negative := WritesPlainly.negative (isDecimal_decimal (k + 1)) nonzero
      rwa [digitsValue_decimal] at negative

end Text

namespace Token

open Json

/-! ### Tokens of a depth -/

/-- The token of depth `n` without any text. -/
def OfDepth (n : Int) (t : Token) : Prop := t = ofLevel t.tabLevel ∧ n = t.tabLevel.toNat

/-- A reading succeeds just when `n` is a size, and then gives the token of this depth without any
text. -/
structure ReadsDepth (n : Int) (read : Except ε Token) : Prop where
  succeeds_iff : (∃ t, read = .ok t) ↔ 0 ≤ n ∧ n ≤ Size.largest
  token {t : Token} (h : read = .ok t) : t.OfDepth n

theorem exists_ofDepth_iff {n : Int} : (∃ t, OfDepth n t) ↔ 0 ≤ n ∧ n ≤ Size.largest := by
  constructor
  · rintro ⟨t, -, rfl⟩
    have := t.tabLevel.toNat_le
    omega
  · rintro ⟨nonnegative, fits⟩
    refine ⟨ofLevel (Size.clamp n.toNat), rfl, ?_⟩
    rw [ofLevel, Size.toNat_clamp]
    omega

theorem readsDepth_of_iff {n : Int} {read : Except ε Token}
    (h : ∀ t, read = .ok t ↔ OfDepth n t) : ReadsDepth n read where
  succeeds_iff := by simp only [h, exists_ofDepth_iff]
  token := (h _).1

/-! ### Depths in JSON -/

/-- The value that a numeral of an integer stands for. -/
def depthValue (n : Int) : Value := .number (Numeral.ofInt n).number

/-- The text of an object that only gives the depth. -/
def depthObject (numeral : List Char) : String :=
  String.ofList ("\x7b\"tab_level\":".toList ++ (numeral ++ ['\x7d']))

/-- The text of an array that only gives the depth. -/
def depthArray (numeral : List Char) : String := String.ofList ('[' :: (numeral ++ [']']))

theorem toList_depthObject (numeral : List Char) :
    (depthObject numeral).toList =
      '\x7b' :: (stringText tabLevelKey ++ ':' :: (numeral ++ ['\x7d'])) := by
  have key : "\x7b\"tab_level\":".toList = '\x7b' :: (stringText tabLevelKey ++ [':']) := by decide
  calc (depthObject numeral).toList
      = "\x7b\"tab_level\":".toList ++ (numeral ++ ['\x7d']) := String.toList_ofList
    _ = '\x7b' :: (stringText tabLevelKey ++ [':']) ++ (numeral ++ ['\x7d']) :=
      congrArg (· ++ (numeral ++ ['\x7d'])) key
    _ = '\x7b' :: (stringText tabLevelKey ++ ':' :: (numeral ++ ['\x7d'])) := by
      rw [List.cons_append, List.append_assoc, List.singleton_append]

/-- A token is the one of a depth if nothing else is given. -/
theorem given_depth_iff {t : Token} {given : Member → Option Value} {n : Int}
    (level : given .tabLevel = some (depthValue n)) (texts : ∀ field, given (.text field) = none) :
    t.Given given ↔ t.OfDepth n := by
  constructor
  · rintro ⟨⟨i, number, value⟩, empty⟩
    rw [level] at number
    have same : n = i.val :=
      Numeral.number_ofInt_eq_iff.1 (Value.number.inj (Option.some.inj number))
    have unset : t.get = fun _ => "" := by
      funext field
      rcases empty field with given | ⟨-, none⟩
      · rw [texts] at given
        cases given
      · exact none
    refine ⟨?_, same.trans value⟩
    rw [← ofTexts_get t, unset]
    rfl
  · rintro ⟨unset, same⟩
    have number : (Numeral.ofInt n).number = .integer (sizeInteger t.tabLevel) :=
      Numeral.number_ofInt_eq_iff.2 same
    refine ⟨⟨sizeInteger t.tabLevel, ?_, rfl⟩, fun field => .inr ⟨texts field, ?_⟩⟩
    · rw [level, depthValue, number]
    · rw [unset]
      cases field <;> rfl

theorem ofValue_object_depth (n : Int) (t : Token) :
    ofValue (.object [(tabLevelKey, depthValue n)]) = .ok t ↔ t.OfDepth n := by
  rw [ofValue_object_ok_iff]
  apply given_depth_iff
  · rfl
  · intro field
    cases field <;> rfl

theorem ofValue_array_depth (n : Int) (t : Token) :
    ofValue (.array [depthValue n]) = .ok t ↔ t.OfDepth n := by
  have short : [depthValue n].length ≤ 7 := by
    rw [List.length_singleton]
    decide
  rw [ofValue_array_ok_iff, and_iff_right short]
  apply given_depth_iff
  · rfl
  · intro field
    cases field <;> rfl

theorem parse?_depthObject (n : Int) :
    Value.parse? (depthObject (decimalInt n)).toList =
      some (.object [(tabLevelKey, depthValue n)]) := by
  have depth := readValue_decimalInt n (ends_cons (c := '\x7d') (by decide) [])
  have members := readMembers_gives_iff.2
    ⟨_, _, readKey_stringText tabLevelKey _, _, _, depth, .inl ⟨rfl, rfl⟩⟩
  have inside : ∀ next, skipBlanks (stringText tabLevelKey ++
      ':' :: (decimalInt n ++ ['\x7d'])) ≠ '\x7d' :: next := by
    intro next
    rw [stringText, List.cons_append, skipBlanks_cons (by decide)]
    simp
  have object := readValue_gives_iff.2
    (.object (skipBlanks_cons (by decide) _) (.inr ⟨inside, members⟩))
  rw [Value.parse?, toList_depthObject, Written.parse_eq_ok_iff.2 ⟨[], object, rfl⟩]
  simp [Written.value?, memberValues?, decodePieces_map_pieceOf, depthValue]

theorem parse?_depthArray (n : Int) :
    Value.parse? (depthArray (decimalInt n)).toList = some (.array [depthValue n]) := by
  have depth := readValue_decimalInt n (ends_cons (c := ']') (by decide) [])
  have elements := readElements_gives_iff.2 ⟨_, _, depth, .inl ⟨rfl, rfl⟩⟩
  have inside : ∀ next, skipBlanks (decimalInt n ++ [']']) ≠ ']' :: next := by
    intro next
    obtain ⟨c, cs, start, numeral⟩ := decimalInt_eq_cons n
    rw [start, List.cons_append, skipBlanks_cons (isBlank_of_numeral numeral)]
    intro same
    exact ne_of_numeral numeral (by decide) (by decide) (List.cons.inj same).1
  have array := readValue_gives_iff.2
    (.array (skipBlanks_cons (by decide) _) (.inr ⟨inside, elements⟩))
  rw [Value.parse?, depthArray, String.toList_ofList,
    Written.parse_eq_ok_iff.2 ⟨[], array, rfl⟩]
  simp [Written.value?, elementValues?, depthValue]

theorem ofText_depthObject (n : Int) (t : Token) :
    ofText (depthObject (decimalInt n)) = .ok t ↔ t.OfDepth n := by
  have once (m : Member) : [tabLevelKey].count m.key ≤ 1 := List.count_le_length
  rw [ofText_iff_ofValue (parse?_depthObject n) once, ofValue_object_depth]

theorem ofText_depthArray (n : Int) (t : Token) :
    ofText (depthArray (decimalInt n)) = .ok t ↔ t.OfDepth n := by
  have once (m : Member) : ([] : List String).count m.key ≤ 1 := Nat.zero_le 1
  rw [ofText_iff_ofValue (parse?_depthArray n) once, ofValue_array_depth]

/-! ### Depths from machine integers -/

theorem ofInt_eq_ok_iff (n : Int) (t : Token) : ofInt n = .ok t ↔ t.OfDepth n := by
  unfold ofInt
  cases found : Size.ofInt? n with
  | some level =>
    obtain rfl := Size.ofInt?_eq_some_iff.1 found
    constructor
    · rintro ⟨⟩
      exact ⟨rfl, rfl⟩
    · rintro ⟨unset, same⟩
      rw [unset, UInt64.toNat.inj (Int.ofNat.inj same)]
      rfl
  | none =>
    refine iff_of_false nofun ?_
    rintro ⟨-, same⟩
    rw [Size.ofInt?_eq_some_iff.2 same] at found
    cases found

theorem error_of_ofInt {n : Int} {e : ReaderError} (h : ofInt n = .error e) :
    e = .invalidArgument tabLevelKey (String.ofList (decimalInt n)) := by
  unfold ofInt at h
  cases found : Size.ofInt? n with
  | some level =>
    rw [found] at h
    cases h
  | none =>
    rw [found] at h
    cases h
    rfl

theorem ofMachine_eq (τ : IntegerType) (depth : τ.Bits) :
    ofMachine τ depth = ofInt (τ.value depth) := by
  rw [ofMachine, ofInt, τ.toSize?_eq]

/-- **Depths.** An integer in its plain decimal text is taken as the depth of a token by name, as
the only element of an array, from a text and from the value that the text denotes, and as a number:
by each of them just when it is a size, and then the token is the one of this depth without texts.
As a number of any type of machine integers that has it, it is taken alike, without a bit lost. The
error for a number that is no size gives its text. -/
theorem depths_agree {text : List Char} {n : Int} (plain : WritesPlainly text n) :
    ReadsDepth n (ofText (depthObject text)) ∧ ReadsDepth n (ofText (depthArray text)) ∧
    (∃ v, Value.parse? (depthObject text).toList = some v ∧ ReadsDepth n (ofValue v)) ∧
    (∃ v, Value.parse? (depthArray text).toList = some v ∧ ReadsDepth n (ofValue v)) ∧
    ReadsDepth n (ofInt n) ∧
    (∀ e, ofInt n = .error e → e = .invalidArgument "tab_level" (String.ofList text)) ∧
    ∀ τ : IntegerType, ((∃ depth, τ.value depth = n) ↔ τ.least ≤ n ∧ n ≤ τ.greatest) ∧
      ∀ depth, τ.value depth = n → ofMachine τ depth = ofInt n := by
  obtain rfl := writesPlainly_iff.1 plain
  refine ⟨readsDepth_of_iff (ofText_depthObject n), readsDepth_of_iff (ofText_depthArray n),
    ⟨_, parse?_depthObject n, readsDepth_of_iff (ofValue_object_depth n)⟩,
    ⟨_, parse?_depthArray n, readsDepth_of_iff (ofValue_array_depth n)⟩,
    readsDepth_of_iff (ofInt_eq_ok_iff n), fun e => error_of_ofInt,
    fun τ => ⟨τ.exists_value_iff, ?_⟩⟩
  rintro depth rfl
  exact ofMachine_eq τ depth

/-- The first integer that is too large for a size, in two texts and as a signed number of 128
bits. -/
theorem depths_agree_large :
    let text := "18446744073709551616".toList
    WritesPlainly text 18446744073709551616 ∧
      depthObject text = "\x7b\"tab_level\":18446744073709551616\x7d" ∧
      (¬ ∃ t, ofText (depthObject text) = .ok t) ∧ (¬ ∃ t, ofText (depthArray text) = .ok t) ∧
      ofMachine ⟨.bits128, true⟩ 18446744073709551616#128 =
        .error (.invalidArgument "tab_level" "18446744073709551616") := by
  intro text
  have plain : WritesPlainly text 18446744073709551616 := writesPlainly_iff.2 (by decide)
  obtain ⟨object, array, -, -, number, error, machine⟩ := depths_agree plain
  have large : ¬ ((0 : Int) ≤ 18446744073709551616 ∧
      (18446744073709551616 : Int) ≤ Size.largest) := by
    decide
  have taken := (machine ⟨.bits128, true⟩).2 18446744073709551616#128 (by decide)
  refine ⟨plain, by decide, mt object.succeeds_iff.1 large, mt array.succeeds_iff.1 large, ?_⟩
  rw [taken]
  cases read : ofInt 18446744073709551616 with
  | ok t => exact absurd (number.succeeds_iff.1 ⟨t, read⟩) large
  | error e => rw [error e read, String.ofList_toList]

end Token

end TreeSpec
