import TreeSpec.Reference
import TreeSpec.Proofs.Runs

/-!
# The grammar of references

`Spells` lists the four shapes of a reference. `Reference.parse?` reads exactly the texts of
these shapes, each in the one way in which it is made up (`parse?_eq_some_iff`,
`spells_unique`): the brackets and colons are no word characters and no digits, so they mark
where a name or a run ends.
-/

namespace TreeSpec

open Text

/-- One or more word characters. -/
def IsName (cs : List Char) : Prop := cs ≠ [] ∧ ∀ c ∈ cs, isWordChar c = true

instance (cs : List Char) : Decidable (IsName cs) :=
  decidable_of_decidable_of_iff (p := cs ≠ [] ∧ cs.all isWordChar)
    (and_congr Iff.rfl List.all_eq_true)

/-- What may stand for a bound of a slice: a run of digits, or nothing. -/
def IsBound (cs : List Char) : Prop := cs = [] ∨ IsRun cs

/-- A run writes down a number, in any of its spellings. -/
def Writes (run : List Char) (n : Nat) : Prop := IsRun run ∧ digitsValue run = n

instance (run : List Char) (n : Nat) : Decidable (Writes run n) :=
  inferInstanceAs (Decidable (_ ∧ _))

theorem writes_decimal (n : Nat) : Writes (decimal n) n := ⟨isRun_decimal n, digitsValue_decimal n⟩

namespace Reference

/-- The texts of references, with the parts they are made of. -/
inductive Spells : List Char → Reference → Prop
  | bare {name} : IsName name → Spells name ⟨name, none⟩
  | index {name run} : IsName name → IsRun run →
      Spells (name ++ '[' :: (run ++ [']'])) ⟨name, some (.index run)⟩
  | slice {name start stop} : IsName name → IsBound start → IsBound stop →
      Spells (name ++ '[' :: (start ++ ':' :: (stop ++ [']'])))
        ⟨name, some (.slice start stop none)⟩
  | stepped {name start stop step} : IsName name → IsBound start → IsBound stop → IsBound step →
      Spells (name ++ '[' :: (start ++ ':' :: (stop ++ ':' :: (step ++ [']']))))
        ⟨name, some (.slice start stop (some step))⟩

/-- The step of a reference is written and all its digits are zeros. -/
def ZeroStep (r : Reference) : Prop :=
  ∃ start stop step, r.subscript = some (.slice start stop (some step)) ∧ step ≠ [] ∧
    ∀ c ∈ step, c = '0'

end Reference

theorem IsBound.digits {cs : List Char} (h : IsBound cs) : ∀ c ∈ cs, c.isDigit = true := by
  rcases h with rfl | h
  · nofun
  · exact h.2

theorem isBound_of_digits {cs : List Char} (h : ∀ c ∈ cs, c.isDigit = true) : IsBound cs := by
  by_cases hne : cs = []
  · exact Or.inl hne
  · exact Or.inr ⟨hne, h⟩

section
variable {p : Char → Bool} {run rest : List Char} {s : Char}

/-- Reading up to the first character outside a class stops at the end of a run. -/
theorem takeWhile_run (h : ∀ c ∈ run, p c = true) (hs : p s = false) :
    (run ++ s :: rest).takeWhile p = run := by
  rw [List.takeWhile_append_of_pos h, List.takeWhile_cons, hs]
  simp

theorem dropWhile_run (h : ∀ c ∈ run, p c = true) (hs : p s = false) :
    (run ++ s :: rest).dropWhile p = s :: rest := by
  rw [List.dropWhile_append_of_pos h, List.dropWhile_cons, hs]
  simp

/-- A text is what is read up to a character, and what is left from it on. -/
theorem eq_of_dropWhile {cs : List Char} (h : cs.dropWhile p = rest) :
    cs = cs.takeWhile p ++ rest := by
  rw [← h, List.takeWhile_append_dropWhile]

theorem takeWhile_digits (cs : List Char) :
    ∀ c ∈ cs.takeWhile Char.isDigit, c.isDigit = true :=
  fun _ h => List.all_eq_true.1 List.all_takeWhile _ h

theorem takeWhile_word (cs : List Char) :
    ∀ c ∈ cs.takeWhile isWordChar, isWordChar c = true :=
  fun _ h => List.all_eq_true.1 List.all_takeWhile _ h

end

namespace Reference

theorem Subscript.parse?_index {run : List Char} (h : IsRun run) :
    Subscript.parse? (run ++ [']']) = some (.index run) := by
  unfold Subscript.parse?
  rw [takeWhile_run h.2 (by decide), dropWhile_run h.2 (by decide)]
  simp [h.1]

theorem Subscript.parse?_slice {start stop : List Char} (hs : IsBound start) (ht : IsBound stop) :
    Subscript.parse? (start ++ ':' :: (stop ++ [']'])) = some (.slice start stop none) := by
  unfold Subscript.parse?
  rw [takeWhile_run hs.digits (by decide), dropWhile_run hs.digits (by decide)]
  simp only
  rw [takeWhile_run ht.digits (by decide), dropWhile_run ht.digits (by decide)]
  rfl

theorem Subscript.parse?_stepped {start stop step : List Char} (hs : IsBound start)
    (ht : IsBound stop) (hp : IsBound step) :
    Subscript.parse? (start ++ ':' :: (stop ++ ':' :: (step ++ [']']))) =
      some (.slice start stop (some step)) := by
  unfold Subscript.parse?
  rw [takeWhile_run hs.digits (by decide), dropWhile_run hs.digits (by decide)]
  simp only
  rw [takeWhile_run ht.digits (by decide), dropWhile_run ht.digits (by decide)]
  simp only
  rw [takeWhile_run hp.digits (by decide), dropWhile_run hp.digits (by decide)]
  rfl

theorem parse?_name {name : List Char} (h : IsName name) :
    parse? name = some ⟨name, none⟩ := by
  have taken : (name ++ []).takeWhile isWordChar = name ++ [] :=
    List.takeWhile_append_of_pos h.2
  have left : (name ++ []).dropWhile isWordChar = [] := List.dropWhile_append_of_pos h.2
  rw [List.append_nil] at taken left
  simp [parse?, taken, left, h.1]

theorem parse?_subscript {name cs : List Char} {s : Subscript} (h : IsName name)
    (hs : Subscript.parse? cs = some s) :
    parse? (name ++ '[' :: cs) = some ⟨name, some s⟩ := by
  simp only [parse?, takeWhile_run h.2 isWordChar_openBracket,
    dropWhile_run h.2 isWordChar_openBracket, hs]
  simp [h.1]

theorem parse?_of_spells {cs : List Char} {r : Reference} (h : Spells cs r) :
    parse? cs = some r := by
  cases h with
  | bare hn => exact parse?_name hn
  | index hn hr => exact parse?_subscript hn (Subscript.parse?_index hr)
  | slice hn hs ht => exact parse?_subscript hn (Subscript.parse?_slice hs ht)
  | stepped hn hs ht hp => exact parse?_subscript hn (Subscript.parse?_stepped hs ht hp)

theorem spells_of_subscript {name cs : List Char} {s : Subscript} (hn : IsName name)
    (h : Subscript.parse? cs = some s) : Spells (name ++ '[' :: cs) ⟨name, some s⟩ := by
  unfold Subscript.parse? at h
  have first := isBound_of_digits (takeWhile_digits cs)
  simp only at h
  split at h
  · rename_i hd
    split at h
    · cases h
    · rename_i hne
      cases h
      have spelled := Spells.index hn ⟨by simpa using hne, takeWhile_digits cs⟩
      rwa [← eq_of_dropWhile hd] at spelled
  · rename_i cs₂ hd
    have second := isBound_of_digits (takeWhile_digits cs₂)
    split at h
    · rename_i hd₂
      cases h
      have spelled := Spells.slice hn first second
      rwa [← eq_of_dropWhile hd₂, ← eq_of_dropWhile hd] at spelled
    · rename_i cs₃ hd₂
      have third := isBound_of_digits (takeWhile_digits cs₃)
      split at h
      · rename_i hd₃
        cases h
        have spelled := Spells.stepped hn first second third
        rwa [← eq_of_dropWhile hd₃, ← eq_of_dropWhile hd₂, ← eq_of_dropWhile hd] at spelled
      · cases h
    · cases h
  · cases h

theorem spells_of_parse? {cs : List Char} {r : Reference} (h : parse? cs = some r) :
    Spells cs r := by
  unfold parse? at h
  simp only at h
  split at h
  · cases h
  · rename_i hne
    have name : IsName (cs.takeWhile isWordChar) := ⟨by simpa using hne, takeWhile_word cs⟩
    split at h
    · rename_i hd
      cases h
      have whole := eq_of_dropWhile hd
      rw [List.append_nil] at whole
      rw [← whole] at name ⊢
      exact .bare name
    · rename_i cs₂ hd
      obtain ⟨s, hs, rfl⟩ := Option.map_eq_some_iff.1 h
      have spelled := spells_of_subscript name hs
      rwa [← eq_of_dropWhile hd] at spelled
    · cases h

/-- Exactly the texts of the four shapes are read, each as what it is made of. -/
theorem parse?_eq_some_iff {cs : List Char} {r : Reference} :
    parse? cs = some r ↔ Spells cs r :=
  ⟨spells_of_parse?, parse?_of_spells⟩

/-- A text can be made up in one way only. -/
theorem spells_unique {cs : List Char} {r r' : Reference} (h : Spells cs r) (h' : Spells cs r') :
    r = r' :=
  Option.some.inj ((parse?_of_spells h).symm.trans (parse?_of_spells h'))

/-- A text that spells a reference is the text of that reference. -/
theorem Spells.eq_text {cs : List Char} {r : Reference} (h : Spells cs r) : cs = r.text := by
  cases h <;> rfl

theorem Spells.isName {cs : List Char} {r : Reference} (h : Spells cs r) : IsName r.name := by
  cases h <;> assumption

end Reference

/-- The text of an index of a name, written as a run of digits. -/
def indexText (name run : List Char) : String :=
  String.ofList (Reference.text ⟨name, some (.index run)⟩)

/-- The text of a slice of a name, with runs of digits for its bounds. -/
def sliceText (name start stop : List Char) (step : Option (List Char)) : String :=
  String.ofList (Reference.text ⟨name, some (.slice start stop step)⟩)

end TreeSpec
