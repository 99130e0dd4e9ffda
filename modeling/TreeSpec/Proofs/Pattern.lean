import TreeSpec.Proofs.Grammar

/-!
# Patterns with groups

A pattern describes whole texts, and its groups remember the parts that they match. The two
forms of a reference are each one pattern: `sliceForm`, whose subscript and bounds are
optional, and `indexForm`. A text matches one of them exactly when it spells a reference of
that form, and then each group has the one value that the grammar gives it, whichever way the
pattern is gone through.
-/

namespace TreeSpec

open Text

/-- A pattern for texts; `γ` names its groups. -/
inductive Pattern (γ : Type) where
  | char (c : Char)
  /-- One or more characters of a class. -/
  | run (member : Char → Bool)
  | group (name : γ) (p : Pattern γ)
  | optional (p : Pattern γ)
  | chain (p q : Pattern γ)

/-- The parts of a text that groups have matched. -/
abbrev Groups (γ : Type) := List (γ × List Char)

/-- A text matches a pattern from its first to its last character, with these groups. -/
def Pattern.Matches : Pattern γ → List Char → Groups γ → Prop
  | .char c, cs, groups => cs = [c] ∧ groups = []
  | .run member, cs, groups => (cs ≠ [] ∧ ∀ c ∈ cs, member c = true) ∧ groups = []
  | .group name p, cs, groups => ∃ inner, p.Matches cs inner ∧ groups = (name, cs) :: inner
  | .optional p, cs, groups => (cs = [] ∧ groups = []) ∨ p.Matches cs groups
  | .chain p q, cs, groups => ∃ left right before after, p.Matches left before ∧
      q.Matches right after ∧ cs = left ++ right ∧ groups = before ++ after

namespace Reference

inductive Part where
  | name
  | start
  | stop
  | step
  | index
deriving DecidableEq

def nameForm : Pattern Part := .group .name (.run isWordChar)

def digits (part : Part) : Pattern Part := .group part (.run Char.isDigit)

/-- A second colon, and possibly the step behind it. -/
def stepForm : Pattern Part := .chain (.char ':') (.optional (digits .step))

/-- A bracket with one or two colons and any of the bounds. -/
def boundsForm : Pattern Part :=
  .chain (.char '[') (.chain (.optional (digits .start)) (.chain (.char ':')
    (.chain (.optional (digits .stop)) (.chain (.optional stepForm) (.char ']')))))

def sliceForm : Pattern Part := .chain nameForm (.optional boundsForm)

def indexForm : Pattern Part :=
  .chain nameForm (.chain (.char '[') (.chain (digits .index) (.char ']')))

/-- The group of a run that may be missing. -/
def remember (part : Part) (run : List Char) : Groups Part :=
  if run = [] then [] else [(part, run)]

/-- The parts of a reference as groups. -/
def groups (r : Reference) : Groups Part :=
  (.name, r.name) ::
    match r.subscript with
    | none => []
    | some (.index run) => [(.index, run)]
    | some (.slice start stop step) =>
      remember .start start ++ (remember .stop stop ++ remember .step (step.getD []))

/-- A single run stands between the brackets. -/
def IsIndex (r : Reference) : Prop := ∃ run, r.subscript = some (.index run)

theorem group_run_matches_iff {part : Part} {member : Char → Bool} {cs : List Char}
    {found : Groups Part} :
    (Pattern.group part (.run member)).Matches cs found ↔
      (cs ≠ [] ∧ ∀ c ∈ cs, member c = true) ∧ found = [(part, cs)] := by
  simp only [Pattern.Matches]
  constructor
  · rintro ⟨_, ⟨h, rfl⟩, rfl⟩
    exact ⟨h, rfl⟩
  · rintro ⟨h, rfl⟩
    exact ⟨[], ⟨h, rfl⟩, rfl⟩

theorem nameForm_matches_iff {cs : List Char} {found : Groups Part} :
    nameForm.Matches cs found ↔ IsName cs ∧ found = [(.name, cs)] :=
  group_run_matches_iff

theorem digits_matches_iff {part : Part} {cs : List Char} {found : Groups Part} :
    (digits part).Matches cs found ↔ IsRun cs ∧ found = [(part, cs)] :=
  group_run_matches_iff

theorem bound_matches_iff {part : Part} {cs : List Char} {found : Groups Part} :
    (Pattern.optional (digits part)).Matches cs found ↔
      IsBound cs ∧ found = remember part cs := by
  rw [Pattern.Matches, digits_matches_iff]
  constructor
  · rintro (⟨rfl, rfl⟩ | ⟨hr, rfl⟩)
    · exact ⟨Or.inl rfl, rfl⟩
    · exact ⟨Or.inr hr, by simp [remember, hr.1]⟩
  · rintro ⟨rfl | hr, rfl⟩
    · exact Or.inl ⟨rfl, rfl⟩
    · exact Or.inr ⟨hr, by simp [remember, hr.1]⟩

theorem char_chain_matches_iff {c : Char} {p : Pattern Part} {cs : List Char}
    {found : Groups Part} :
    (Pattern.chain (.char c) p).Matches cs found ↔
      ∃ rest, p.Matches rest found ∧ cs = c :: rest := by
  simp only [Pattern.Matches]
  constructor
  · rintro ⟨_, rest, _, _, ⟨rfl, rfl⟩, h, rfl, rfl⟩
    exact ⟨rest, h, rfl⟩
  · rintro ⟨rest, h, rfl⟩
    exact ⟨[c], rest, [], found, ⟨rfl, rfl⟩, h, rfl, rfl⟩

theorem chain_bracket_matches_iff {p : Pattern Part} {cs : List Char} {found : Groups Part} :
    (Pattern.chain p (.char ']')).Matches cs found ↔
      ∃ before, p.Matches before found ∧ cs = before ++ [']'] := by
  simp only [Pattern.Matches]
  constructor
  · rintro ⟨before, _, _, _, h, ⟨rfl, rfl⟩, rfl, rfl⟩
    exact ⟨before, by rwa [List.append_nil], rfl⟩
  · rintro ⟨before, h, rfl⟩
    exact ⟨before, [']'], found, [], h, ⟨rfl, rfl⟩, rfl, (List.append_nil _).symm⟩

theorem bound_chain_matches_iff {part : Part} {p : Pattern Part} {cs : List Char}
    {found : Groups Part} :
    (Pattern.chain (.optional (digits part)) p).Matches cs found ↔
      ∃ run rest after, IsBound run ∧ p.Matches rest after ∧ cs = run ++ rest ∧
        found = remember part run ++ after := by
  rw [Pattern.Matches]
  simp only [bound_matches_iff]
  constructor
  · rintro ⟨run, rest, _, after, ⟨hr, rfl⟩, h, rfl, rfl⟩
    exact ⟨run, rest, after, hr, h, rfl, rfl⟩
  · rintro ⟨run, rest, after, hr, h, rfl, rfl⟩
    exact ⟨run, rest, _, after, ⟨hr, rfl⟩, h, rfl, rfl⟩

theorem stepForm_matches_iff {cs : List Char} {found : Groups Part} :
    stepForm.Matches cs found ↔
      ∃ step, IsBound step ∧ cs = ':' :: step ∧ found = remember .step step := by
  rw [stepForm, char_chain_matches_iff]
  simp only [bound_matches_iff]
  constructor
  · rintro ⟨step, ⟨hp, rfl⟩, rfl⟩
    exact ⟨step, hp, rfl, rfl⟩
  · rintro ⟨step, hp, rfl, rfl⟩
    exact ⟨step, ⟨hp, rfl⟩, rfl⟩

theorem boundsForm_matches_iff {cs : List Char} {found : Groups Part} :
    boundsForm.Matches cs found ↔
      ∃ start stop colon after, IsBound start ∧ IsBound stop ∧
        (Pattern.optional stepForm).Matches colon after ∧
        cs = '[' :: (start ++ ':' :: (stop ++ (colon ++ [']']))) ∧
        found = remember .start start ++ (remember .stop stop ++ after) := by
  simp only [boundsForm, char_chain_matches_iff, bound_chain_matches_iff,
    chain_bracket_matches_iff]
  constructor
  · rintro ⟨_, ⟨start, _, _, hs, ⟨_, ⟨stop, _, after, ht, ⟨colon, h, rfl⟩, rfl, rfl⟩, rfl⟩,
      rfl, rfl⟩, rfl⟩
    exact ⟨start, stop, colon, after, hs, ht, h, rfl, rfl⟩
  · rintro ⟨start, stop, colon, after, hs, ht, h, rfl, rfl⟩
    exact ⟨_, ⟨start, _, _, hs, ⟨_, ⟨stop, _, after, ht, ⟨colon, h, rfl⟩, rfl, rfl⟩, rfl⟩,
      rfl, rfl⟩, rfl⟩

theorem name_chain_matches_iff {p : Pattern Part} {cs : List Char} {found : Groups Part} :
    (Pattern.chain nameForm p).Matches cs found ↔
      ∃ name rest after, IsName name ∧ p.Matches rest after ∧ cs = name ++ rest ∧
        found = (.name, name) :: after := by
  rw [Pattern.Matches]
  simp only [nameForm_matches_iff]
  constructor
  · rintro ⟨name, rest, _, after, ⟨hn, rfl⟩, h, rfl, rfl⟩
    exact ⟨name, rest, after, hn, h, rfl, rfl⟩
  · rintro ⟨name, rest, after, hn, h, rfl, rfl⟩
    exact ⟨name, rest, _, after, ⟨hn, rfl⟩, h, rfl, rfl⟩

/-- The index form matches the texts of indices. -/
theorem indexForm_matches_iff {cs : List Char} {found : Groups Part} :
    indexForm.Matches cs found ↔ ∃ r, Spells cs r ∧ r.IsIndex ∧ found = r.groups := by
  simp only [indexForm, name_chain_matches_iff, char_chain_matches_iff,
    chain_bracket_matches_iff, digits_matches_iff]
  constructor
  · rintro ⟨name, _, _, hn, ⟨_, ⟨run, ⟨hr, rfl⟩, rfl⟩, rfl⟩, rfl, rfl⟩
    exact ⟨_, .index hn hr, ⟨run, rfl⟩, rfl⟩
  · rintro ⟨r, spelled, ⟨run, hi⟩, rfl⟩
    cases spelled with
    | index hn hr => exact ⟨_, _, _, hn, ⟨_, ⟨_, ⟨hr, rfl⟩, rfl⟩, rfl⟩, rfl, rfl⟩
    | bare | slice | stepped => simp at hi

/-- The slice form matches the texts of all other references. -/
theorem sliceForm_matches_iff {cs : List Char} {found : Groups Part} :
    sliceForm.Matches cs found ↔ ∃ r, Spells cs r ∧ ¬ r.IsIndex ∧ found = r.groups := by
  simp only [sliceForm, name_chain_matches_iff]
  constructor
  · rintro ⟨name, _, _, hn, h, rfl, rfl⟩
    rcases h with ⟨rfl, rfl⟩ | bounds
    · rw [List.append_nil]
      exact ⟨_, .bare hn, by simp [IsIndex], rfl⟩
    · obtain ⟨start, stop, _, _, hs, ht, colon, rfl, rfl⟩ := boundsForm_matches_iff.1 bounds
      rcases colon with ⟨rfl, rfl⟩ | colon
      · exact ⟨_, .slice hn hs ht, by simp [IsIndex], rfl⟩
      · obtain ⟨step, hp, rfl, rfl⟩ := stepForm_matches_iff.1 colon
        exact ⟨_, .stepped hn hs ht hp, by simp [IsIndex], rfl⟩
  · rintro ⟨r, spelled, hi, rfl⟩
    cases spelled with
    | bare hn => exact ⟨_, [], [], hn, Or.inl ⟨rfl, rfl⟩, (List.append_nil _).symm, rfl⟩
    | index => exact absurd ⟨_, rfl⟩ hi
    | slice hn hs ht =>
      have bounds := boundsForm_matches_iff.2
        ⟨_, _, [], [], hs, ht, Or.inl ⟨rfl, rfl⟩, rfl, rfl⟩
      exact ⟨_, _, _, hn, Or.inr bounds, rfl, rfl⟩
    | stepped hn hs ht hp =>
      have colon := stepForm_matches_iff.2 ⟨_, hp, rfl, rfl⟩
      have bounds := boundsForm_matches_iff.2 ⟨_, _, _, _, hs, ht, Or.inr colon, rfl, rfl⟩
      exact ⟨_, _, _, hn, Or.inr bounds, rfl, rfl⟩

end Reference

end TreeSpec
