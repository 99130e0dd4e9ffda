import TreeSpec.Proofs.Parsing

/-!
# The text of an expression

An expression has a text of its own, which reads back as the same expression. The text leaves
out what follows from the rest: the stop of an index, and a missing step together with its
colon. `Parts` is what can be seen of an expression, and `Parts.Shaped` says which parts go
together.
-/

namespace TreeSpec.Expression

open Text Reference

/-- What can be seen of an expression. -/
structure Parts where
  name : String
  form : Form
  start : Option Size
  stop : Option Size
  step : Option Step
deriving DecidableEq

def parts (e : Expression) : Parts := ⟨e.name, e.form, e.start, e.stop, e.step⟩

/-- Parts that go together: a bare name has no bounds, an index stops one further on or at the
largest size, and a slice may have any bounds. -/
inductive Parts.Shaped : Parts → Prop
  | bare (name) : Shaped ⟨name, .bare, none, none, none⟩
  | index (name) (i : Size) :
      Shaped ⟨name, .index, some i, some (Size.clamp (i.toNat + 1)), none⟩
  | slice (name start stop step) : Shaped ⟨name, .slice, start, stop, step⟩

/-- The text of a step with the colon in front of it, empty when the step is missing. -/
def stepText : Option Step → List Char
  | none => []
  | some s => ':' :: decimal s.size.toNat

/-- The text of an expression, by its parts. -/
def Parts.text (p : Parts) : List Char :=
  match p.form with
  | .bare => p.name.toList
  | .index => p.name.toList ++ '[' :: (decimal (p.start.getD 0).toNat ++ [']'])
  | .slice =>
    p.name.toList ++ '[' :: (boundText p.start ++ ':' :: (boundText p.stop ++
      (stepText p.step ++ [']'])))

theorem parts_shaped (e : Expression) : e.parts.Shaped := by
  obtain ⟨name, subscript⟩ := e
  cases subscript with
  | all => exact .bare name
  | index i => exact .index name i
  | slice start stop step => exact .slice name start stop step

theorem exists_of_shaped {p : Parts} (h : p.Shaped) : ∃ e : Expression, e.parts = p := by
  cases h with
  | bare name => exact ⟨⟨name, .all⟩, rfl⟩
  | index name i => exact ⟨⟨name, .index i⟩, rfl⟩
  | slice name start stop step => exact ⟨⟨name, .slice start stop step⟩, rfl⟩

theorem parts_injective {e e' : Expression} (h : e.parts = e'.parts) : e = e' := by
  obtain ⟨name, subscript⟩ := e
  obtain ⟨name', subscript'⟩ := e'
  cases subscript <;> cases subscript' <;>
    simp_all [parts, form, start, stop, step]

theorem text_eq_parts_text (e : Expression) : e.text.toList = e.parts.text := by
  obtain ⟨name, subscript⟩ := e
  rw [text, String.toList_ofList]
  cases subscript with
  | all | index => rfl
  | slice start stop step =>
    cases step with
    | none => rfl
    | some p =>
      simp [toReference, Reference.text, Reference.Subscript.text, parts, Parts.text, form,
        Expression.start, Expression.stop, Expression.step, stepText]

theorem isBound_boundText (bound : Option Size) : IsBound (boundText bound) := by
  cases bound with
  | none => exact Or.inl rfl
  | some s => exact Or.inr (isRun_decimal s.toNat)

/-- The plainest reference of an expression is spelled by its text. -/
theorem spells_text {e : Expression} (h : IsName e.name.toList) :
    Spells e.text.toList e.toReference := by
  obtain ⟨name, subscript⟩ := e
  rw [text, String.toList_ofList]
  cases subscript with
  | all => exact .bare h
  | index i => exact .index h (isRun_decimal i.toNat)
  | slice start stop step =>
    cases step with
    | none => exact .slice h (isBound_boundText start) (isBound_boundText stop)
    | some p =>
      exact .stepped h (isBound_boundText start) (isBound_boundText stop)
        (Or.inr (isRun_decimal p.size.toNat))

theorem bound?_of_writes {run : List Char} {n : Nat} (h : Writes run n) :
    bound? run = some (Size.clamp n) := by
  obtain ⟨digits, rfl⟩ := h
  exact if_neg (by simpa using digits.1)

theorem bound?_decimal (n : Nat) : bound? (decimal n) = some (Size.clamp n) :=
  bound?_of_writes (writes_decimal n)

theorem bound?_boundText (bound : Option Size) : bound? (boundText bound) = bound := by
  cases bound with
  | none => rfl
  | some s => rw [boundText, bound?_decimal, Size.clamp_toNat]

theorem step?_decimal (step : Option Step) :
    step? ((step.map fun s => decimal s.size.toNat).getD []) = some step := by
  cases step with
  | none => rfl
  | some s =>
    simp [step?, bound?_decimal, Size.clamp_toNat, Step.ofSize?, s.ne_zero]

theorem ofReference?_toReference (e : Expression) : ofReference? e.toReference = some e := by
  obtain ⟨name, subscript⟩ := e
  cases subscript with
  | all => simp [toReference, ofReference?]
  | index i =>
    simp [toReference, ofReference?, Subscript.ofReference?, digitsValue_decimal, Size.clamp_toNat]
  | slice start stop step =>
    simp [toReference, ofReference?, Subscript.ofReference?, bound?_boundText, step?_decimal]

theorem parse_text {e : Expression} (h : IsName e.name.toList) : parse e.text = .ok e :=
  parse_eq_ok_iff.2 ⟨e.toReference, spells_text h, ofReference?_toReference e⟩

theorem isName_of_parse {t : String} {e : Expression} (h : parse t = .ok e) :
    IsName e.name.toList := by
  obtain ⟨r, hr, ho⟩ := parse_eq_ok_iff.1 h
  rw [(means_of_ofReference? ho).1]
  exact hr.isName

theorem text_injective {e e' : Expression} (h : IsName e.name.toList)
    (h' : IsName e'.name.toList) (same : e.text = e'.text) : e = e' := by
  have read := parse_text h
  rw [same, parse_text h'] at read
  exact (Except.ok.inj read).symm

/-- Going one further on from a number that was cut off ends where the next number does. -/
theorem clamp_next (n : Nat) : Size.clamp ((Size.clamp n).toNat + 1) = Size.clamp (n + 1) := by
  rw [← UInt64.toNat_inj, Size.toNat_clamp, Size.toNat_clamp, Size.toNat_clamp]
  omega

section
variable {name run start stop : List Char} {i j : Nat} (word : IsName name)
include word

theorem parse_indexText (run_i : Writes run i) :
    parse (indexText name run) = .ok ⟨String.ofList name, .index (Size.clamp i)⟩ := by
  obtain ⟨digits, rfl⟩ := run_i
  refine parse_eq_ok_iff.2 ⟨⟨name, some (.index run)⟩, ?_, rfl⟩
  rw [indexText, String.toList_ofList]
  exact .index word digits

theorem parse_sliceText (start_i : Writes start i) (stop_j : Writes stop j) :
    parse (sliceText name start stop none) =
      .ok ⟨String.ofList name, .slice (some (Size.clamp i)) (some (Size.clamp j)) none⟩ := by
  refine parse_eq_ok_iff.2 ⟨⟨name, some (.slice start stop none)⟩, ?_, ?_⟩
  · rw [sliceText, String.toList_ofList]
    exact .slice word (.inr start_i.1) (.inr stop_j.1)
  · simp only [ofReference?, Subscript.ofReference?, bound?_of_writes start_i,
      bound?_of_writes stop_j]
    rfl

end

/-- An index and the slice that is one wide have the same bounds, but are not equal. -/
theorem index_ne_slice {name : List Char} (h : IsName name) (i : Nat) :
    ∃ e e', parse (String.ofList (name ++ '[' :: (decimal i ++ [']']))) = .ok e ∧
      parse (String.ofList (name ++ '[' :: (decimal i ++ ':' :: (decimal (i + 1) ++ [']'])))) =
        .ok e' ∧
      e.start = e'.start ∧ e.stop = e'.stop ∧ e.step = e'.step ∧ e ≠ e' ∧ e.text ≠ e'.text := by
  let e : Expression := ⟨String.ofList name, .index (Size.clamp i)⟩
  let e' : Expression :=
    ⟨String.ofList name, .slice (some (Size.clamp i)) (some (Size.clamp (i + 1))) none⟩
  have ne : e ≠ e' := by simp [e, e']
  refine ⟨e, e', parse_indexText h (writes_decimal i),
    parse_sliceText h (writes_decimal i) (writes_decimal (i + 1)), rfl, ?_, rfl, ne, ?_⟩
  · simp [stop, e, e', clamp_next]
  · intro same
    have word : IsName (String.ofList name).toList := by rwa [String.toList_ofList]
    exact ne (text_injective word word same)

/-- **Texts of expressions.** What can be read are the expressions whose name is made of word
characters, with parts of one of the three shapes and any parts of these shapes. Each is read
from its own text, so two of them are equal exactly when their texts are. -/
theorem parse_inverts_text :
    (∀ p : Parts, (∃ t e, parse t = .ok e ∧ e.parts = p) ↔ IsName p.name.toList ∧ p.Shaped) ∧
    (∀ p : Parts, IsName p.name.toList → p.Shaped →
      ∃ e, parse (String.ofList p.text) = .ok e ∧ e.parts = p ∧ e.text = String.ofList p.text) ∧
    (∀ e e' : Expression, e.parts = e'.parts ↔ e = e') ∧
    (∀ t t' e e', parse t = .ok e → parse t' = .ok e' → (e = e' ↔ e.text = e'.text)) ∧
    (∀ (name : List Char) (i : Nat), IsName name →
      ∃ e e', parse (String.ofList (name ++ '[' :: (decimal i ++ [']']))) = .ok e ∧
        parse (String.ofList (name ++ '[' :: (decimal i ++ ':' :: (decimal (i + 1) ++ [']'])))) =
          .ok e' ∧
        e.start = e'.start ∧ e.stop = e'.stop ∧ e.step = e'.step ∧ e ≠ e' ∧
        e.text ≠ e'.text) := by
  have read : ∀ p : Parts, IsName p.name.toList → p.Shaped →
      ∃ e, parse (String.ofList p.text) = .ok e ∧ e.parts = p ∧ e.text = String.ofList p.text := by
    intro p name shaped
    obtain ⟨e, rfl⟩ := exists_of_shaped shaped
    rw [← text_eq_parts_text, String.ofList_toList]
    exact ⟨e, parse_text name, rfl, rfl⟩
  refine ⟨fun p => ⟨?_, ?_⟩, read, fun e e' => ⟨parts_injective, congrArg parts⟩, ?_,
    fun name i h => index_ne_slice h i⟩
  · rintro ⟨t, e, h, rfl⟩
    exact ⟨isName_of_parse h, parts_shaped e⟩
  · rintro ⟨name, shaped⟩
    obtain ⟨e, h, he, _⟩ := read p name shaped
    exact ⟨_, e, h, he⟩
  · intro t t' e e' h h'
    exact ⟨congrArg text, text_injective (isName_of_parse h) (isName_of_parse h')⟩

end TreeSpec.Expression
