import Mathlib.Data.List.Induction
import TreeSpec.Resolver
import TreeSpec.Proofs.Rendering

/-!
# Plain texts

Many texts are read as one expression: a run may start with zeros or be too large for a size, and
a second colon may have no step behind it. The text of an expression has none of these, and a text
without them is the text of what it is read as (`text_eq_iff_plain`). So the text of an expression
stands for all its spellings (`plain_text_resolves`): nothing that is read or resolved tells them
apart. The digits of a name are part of the name and are kept as they are.
-/

namespace TreeSpec

open Text Reference

namespace Text

theorem isDecimal_iff {run : List Char} :
    isDecimal run = true ↔ IsRun run ∧ (run.head? = some '0' → run.length = 1) := by
  rw [isDecimal, IsRun]
  cases run with
  | nil => simp
  | cons c run => by_cases zero : c = '0' <;> simp [zero]

theorem digitsValue_concat (run : List Char) (c : Char) :
    digitsValue (run ++ [c]) = 10 * digitsValue run + (c.toNat - '0'.toNat) := by
  simp only [digitsValue, Nat.ofDigitChars_append, Nat.ofDigitChars_cons, Nat.ofDigitChars_nil]

theorem decimal_concat {n d : Nat} (hn : 0 < n) (hd : d < 10) :
    decimal (10 * n + d) = decimal n ++ decimal d :=
  (Nat.toDigits_append_toDigits (by decide) hn hd).symm

theorem digit_bounds {c : Char} (h : c.isDigit = true) :
    '0'.toNat ≤ c.toNat ∧ c.toNat - '0'.toNat < 10 := by
  simp only [Char.isDigit, ge_iff_le, Bool.and_eq_true, decide_eq_true_eq] at h
  have low : 48 ≤ c.toNat := UInt32.le_iff_toNat_le.1 h.1
  have high : c.toNat ≤ 57 := UInt32.le_iff_toNat_le.1 h.2
  change 48 ≤ c.toNat ∧ c.toNat - 48 < 10
  omega

theorem decimal_digit {c : Char} (h : c.isDigit = true) : decimal (c.toNat - '0'.toNat) = [c] := by
  obtain ⟨low, small⟩ := digit_bounds h
  have code : (c.toNat - '0'.toNat).digitChar.toNat = '0'.toNat + (c.toNat - '0'.toNat) :=
    Nat.toNat_digitChar_of_lt_ten small
  have same : (c.toNat - '0'.toNat).digitChar = c := by
    rw [← Char.toNat_inj, code, Nat.add_sub_cancel' low]
  rw [decimal, Nat.toDigits_of_lt_base small, same]

/-- A run without a leading zero is the decimal text of the number that it denotes. -/
theorem decimal_digitsValue {run : List Char} (h : isDecimal run = true) :
    decimal (digitsValue run) = run := by
  -- From the last digit: what stands before it is shorter and has no leading zero either.
  induction run using List.reverseRecOn with
  | nil => cases h
  | append_singleton front c ih =>
    obtain ⟨⟨_, digits⟩, short⟩ := isDecimal_iff.1 h
    have last : c.isDigit = true := digits c (by simp)
    rw [digitsValue_concat]
    by_cases single : front = []
    · subst single
      have value : 10 * digitsValue [] + (c.toNat - '0'.toNat) = c.toNat - '0'.toNat :=
        Nat.zero_add _
      rw [value, decimal_digit last, List.nil_append]
    · have frontDigits : ∀ d ∈ front, d.isDigit = true := by
        intro d hd
        exact digits d (List.mem_append_left _ hd)
      -- a zero in front has to stand alone, but there is a last digit
      have noZero : front.head? ≠ some '0' := by
        intro zero
        have length := short (by rw [List.head?_append, zero, Option.some_or])
        have := List.length_pos_iff.2 single
        simp only [List.length_append, List.length_singleton] at length
        omega
      have positive : 0 < digitsValue front := by
        rw [Nat.pos_iff_ne_zero, Ne, digitsValue_eq_zero_iff frontDigits]
        intro zeros
        obtain ⟨d, rest, rfl⟩ := List.exists_cons_of_ne_nil single
        exact noZero (by rw [List.head?_cons, zeros d List.mem_cons_self])
      have plain : isDecimal front = true :=
        isDecimal_iff.2 ⟨⟨single, frontDigits⟩, fun zero => absurd zero noZero⟩
      rw [decimal_concat positive (digit_bounds last).2, ih plain, decimal_digit last]

theorem isDecimal_decimal (n : Nat) : isDecimal (decimal n) = true := by
  refine isDecimal_iff.2 ⟨isRun_decimal n, fun zero => ?_⟩
  by_cases hn : n = 0
  · subst hn
    rfl
  · exact absurd zero (head?_decimal hn)

/-- A run that a size is written as: its plain decimal text. -/
def IsSizeText (run : List Char) : Prop := isDecimal run = true ∧ digitsValue run ≤ Size.largest

/-- Writing down the number of a run, cut off at the largest size, gives back the run just when it
is how a size is written. -/
theorem decimal_min_eq_iff {run : List Char} :
    decimal (min (digitsValue run) Size.largest) = run ↔ IsSizeText run := by
  constructor
  · intro same
    have plain := isDecimal_decimal (min (digitsValue run) Size.largest)
    rw [same] at plain
    have value := congrArg digitsValue same
    rw [digitsValue_decimal] at value
    exact ⟨plain, by omega⟩
  · rintro ⟨plain, fits⟩
    rw [Nat.min_eq_left fits, decimal_digitsValue plain]

end Text

namespace Reference

/-- The runs of digits of a reference. A bound that is missing has none. -/
def runs (r : Reference) : List (List Char) :=
  match r.subscript with
  | none => []
  | some (.index run) => [run]
  | some (.slice start stop step) => [start, stop, step.getD []].filter (· ≠ [])

/-- Every run is how a size is written, and a second colon has a step behind it. -/
structure Plain (r : Reference) : Prop where
  written : ∀ run ∈ r.runs, IsSizeText run
  colon : ∀ start stop, r.subscript ≠ some (.slice start stop (some []))

end Reference

namespace Expression

open Reference

theorem boundText_bound?_eq_iff {run : List Char} :
    boundText (bound? run) = run ↔ run ≠ [] → IsSizeText run := by
  cases run with
  | nil => exact iff_of_true rfl fun h => absurd rfl h
  | cons c run =>
    have number : boundText (bound? (c :: run)) =
        decimal (min (digitsValue (c :: run)) Size.largest) := by
      rw [← Size.toNat_clamp]
      rfl
    rw [number, decimal_min_eq_iff]
    exact ⟨fun written _ => written, fun written => written (List.cons_ne_nil c run)⟩

theorem stepText_eq_iff {step : Option (List Char)} {s : Option Step}
    (h : step? (step.getD []) = some s) :
    (s.map fun s => decimal s.size.toNat) = step ↔
      step ≠ some [] ∧ (step.getD [] ≠ [] → IsSizeText (step.getD [])) := by
  have number := toNat_step? h
  cases step with
  | none =>
    obtain rfl : s = none := Option.map_eq_none_iff.1 number
    simp
  | some run =>
    cases run with
    | nil =>
      obtain rfl : s = none := Option.map_eq_none_iff.1 number
      simp
    | cons c run =>
      obtain ⟨p, rfl, size⟩ := Option.map_eq_some_iff.1 number
      simp only [Option.map_some, Option.getD_some] at size ⊢
      rw [size, Option.some.injEq, decimal_min_eq_iff]
      simp

/-- The plainest reference of what is read is the reference itself just when that is plain. -/
theorem toReference_eq_iff {r : Reference} {e : Expression} (h : ofReference? r = some e) :
    e.toReference = r ↔ r.Plain := by
  obtain ⟨name, subscript⟩ := r
  cases subscript with
  | none =>
    cases h
    refine iff_of_true ?_ ⟨?_, ?_⟩
    · simp [toReference]
    · intro run hr
      exact absurd hr List.not_mem_nil
    · rintro start stop ⟨⟩
  | some s =>
    obtain ⟨s', hs, rfl⟩ := Option.map_eq_some_iff.1 h
    cases s with
    | index run =>
      cases hs
      simp only [toReference, String.toList_ofList, Reference.mk.injEq, Option.some.injEq,
        Reference.Subscript.index.injEq, true_and, Size.toNat_clamp, decimal_min_eq_iff]
      constructor
      · intro written
        refine ⟨?_, ?_⟩
        · intro run' hr
          rw [List.mem_singleton.1 hr]
          exact written
        · rintro start stop ⟨⟩
      · intro plain
        exact plain.written run List.mem_cons_self
    | slice start stop step =>
      obtain ⟨p, hp, rfl⟩ := Option.map_eq_some_iff.1 hs
      simp only [toReference, String.toList_ofList, Reference.mk.injEq, Option.some.injEq,
        Reference.Subscript.slice.injEq, true_and, boundText_bound?_eq_iff, stepText_eq_iff hp]
      constructor
      · rintro ⟨first, second, colon, third⟩
        refine ⟨fun run hr => ?_, fun _ _ => ?_⟩
        · simp only [Reference.runs, List.mem_filter, List.mem_cons, List.not_mem_nil, or_false,
            decide_eq_true_eq] at hr
          obtain ⟨rfl | rfl | rfl, present⟩ := hr
          · exact first present
          · exact second present
          · exact third present
        · rintro ⟨⟩
          exact colon rfl
      · rintro ⟨written, colon⟩
        have present {run : List Char} (hr : run ∈ [start, stop, step.getD []]) (hne : run ≠ []) :
            IsSizeText run :=
          written run (List.mem_filter.2 ⟨hr, by simpa using hne⟩)
        refine ⟨present (by simp), present (by simp), ?_, present (by simp)⟩
        rintro rfl
        exact colon start stop rfl

/-- A text is the text of what it is read as just when the reference that it spells is plain. -/
theorem text_eq_iff_plain {t : String} {r : Reference} {e : Expression}
    (spelled : Spells t.toList r) (h : ofReference? r = some e) : e.text = t ↔ r.Plain := by
  rw [← toReference_eq_iff h]
  have name : IsName e.name.toList := by
    rw [(means_of_ofReference? h).1]
    exact spelled.isName
  constructor
  · intro same
    have plainest := spells_text name
    rw [same] at plainest
    exact spells_unique plainest spelled
  · intro same
    rw [text, same, ← spelled.eq_text, String.ofList_toList]

theorem parse_text_of_parse {t : String} {e : Expression} (h : parse t = .ok e) :
    parse e.text = parse t := by
  rw [h, parse_text (isName_of_parse h)]

end Expression

/-- **Plain texts.** A text that is read is the text of what it is read as just when each run of
digits between its brackets is how a size is written and no second colon stands without a step. The
text of an expression is read as the expression, and so has the same text again; and in every
namespace, with every settings, it resolves to the same answer with the same events as each of its
spellings. -/
theorem plain_text_resolves [Cluster γ α] {t : String} {e : Expression}
    (h : Expression.parse t = .ok e) :
    (∃ r, Spells t.toList r ∧ (e.text = t ↔ r.Plain)) ∧
    Expression.parse e.text = Expression.parse t ∧
    (∀ e', Expression.parse e.text = .ok e' → e'.text = e.text) ∧
    ∀ (settings : Settings) (ns : Namespace γ),
      settings.resolve e.text ns = settings.resolve t ns := by
  obtain ⟨r, spelled, meaning⟩ := Expression.parse_eq_ok_iff.1 h
  have again := Expression.parse_text_of_parse h
  refine ⟨⟨r, spelled, Expression.text_eq_iff_plain spelled meaning⟩, again, ?_, ?_⟩
  · intro e' parsed
    rw [again, h] at parsed
    rw [Except.ok.inj parsed]
  · intro settings ns
    simp only [Settings.resolve, again]

/-- A spelling with a leading zero, a stop of twenty digits and a second colon without a step. -/
theorem plain_text_resolves_spelling :
    let t := "a[007:99999999999999999999:]"
    let e : Expression := ⟨"a", .slice (some 7) (some (Size.clamp Size.largest)) none⟩
    Expression.parse t = .ok e ∧ e.text = "a[7:18446744073709551615]" ∧
    (∃ r, Spells t.toList r ∧ (e.text = t ↔ r.Plain)) ∧
    Expression.parse e.text = Expression.parse t ∧
    (∀ e', Expression.parse e.text = .ok e' → e'.text = e.text) ∧
    ∀ (settings : Settings) (ns : Namespace (List Nat)),
      settings.resolve e.text ns = settings.resolve t ns := by
  intro t e
  let stop := "99999999999999999999".toList
  let r : Reference := ⟨['a'], some (.slice ['0', '0', '7'] stop (some []))⟩
  have spelled : Spells t.toList r := spells_of_parse? (by decide)
  have parsed : Expression.parse t = .ok e :=
    Expression.parse_eq_ok_iff.2 ⟨r, spelled, by decide⟩
  exact ⟨parsed, by decide, plain_text_resolves parsed⟩

end TreeSpec
