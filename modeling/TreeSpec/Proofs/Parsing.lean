import TreeSpec.Expression
import TreeSpec.Proofs.Pattern

/-!
# Reading expressions

`Expression.parse` accepts the texts that spell a reference whose step is not zero, reads each
in the one way in which it is made up, and says of every other text why it is refused. The
two forms can be tried in either order: no text has both.
-/

namespace TreeSpec

open Text Reference

/-- What is made of a bound as it is written: nothing if it is absent, else the number that
its run denotes, or the largest size if that is less. -/
def writtenBound (run : List Char) : Option Nat :=
  if run = [] then none else some (min (digitsValue run) Size.largest)

namespace Expression

/-- The expression has the name, the form and the bounds that are written in the reference. -/
def Means (e : Expression) (r : Reference) : Prop :=
  e.name.toList = r.name ∧
    match r.subscript with
    | none => e.form = .bare ∧ e.start = none ∧ e.stop = none ∧ e.step = none
    | some (.index run) =>
      e.form = .index ∧ e.start.map UInt64.toNat = some (min (digitsValue run) Size.largest) ∧
        e.stop.map UInt64.toNat =
          some (min (min (digitsValue run) Size.largest + 1) Size.largest) ∧
        e.step = none
    | some (.slice start stop step) =>
      e.form = .slice ∧ e.start.map UInt64.toNat = writtenBound start ∧
        e.stop.map UInt64.toNat = writtenBound stop ∧
        e.step.map (fun s => s.size.toNat) = writtenBound (step.getD [])

theorem toNat_bound? (run : List Char) : (bound? run).map UInt64.toNat = writtenBound run := by
  cases run with
  | nil => rfl
  | cons c run => simp [bound?, writtenBound, Size.toNat_clamp]

theorem clamp_eq_zero_iff {n : Nat} : Size.clamp n = 0 ↔ n = 0 := by
  rw [← UInt64.toNat_inj, Size.toNat_clamp]
  simp only [Size.largest, UInt64.toNat_zero]
  omega

theorem step?_eq_none_iff {run : List Char} :
    step? run = none ↔ run ≠ [] ∧ digitsValue run = 0 := by
  cases run with
  | nil => simp [step?, bound?]
  | cons c run => simp [step?, bound?, Step.ofSize?, clamp_eq_zero_iff]

theorem toNat_step? {run : List Char} {step : Option Step} (h : step? run = some step) :
    step.map (fun s => s.size.toNat) = writtenBound run := by
  rw [← toNat_bound?]
  unfold step? at h
  split at h
  · rename_i hb
    cases h
    rw [hb]
    rfl
  · rename_i s hb
    obtain ⟨p, hp, rfl⟩ := Option.map_eq_some_iff.1 h
    unfold Step.ofSize? at hp
    split at hp
    · cases hp
    · cases hp
      rw [hb]
      rfl

/-- Only a step of zero keeps a reference from having a meaning. -/
theorem ofReference?_eq_none_iff {cs : List Char} {r : Reference} (h : Spells cs r) :
    ofReference? r = none ↔ r.ZeroStep := by
  cases h with
  | bare | index => simp [ofReference?, Subscript.ofReference?, ZeroStep]
  | slice => simp [ofReference?, Subscript.ofReference?, ZeroStep, step?, bound?]
  | stepped _ _ _ hp =>
    rw [ofReference?, Option.map_eq_none_iff, Subscript.ofReference?, Option.map_eq_none_iff,
      Option.getD_some, step?_eq_none_iff, digitsValue_eq_zero_iff hp.digits]
    constructor
    · rintro ⟨hne, zeros⟩
      exact ⟨_, _, _, rfl, hne, zeros⟩
    · rintro ⟨_, _, _, written, hne, zeros⟩
      cases written
      exact ⟨hne, zeros⟩

theorem means_of_ofReference? {r : Reference} {e : Expression} (h : ofReference? r = some e) :
    e.Means r := by
  obtain ⟨name, subscript⟩ := r
  cases subscript with
  | none =>
    cases h
    exact ⟨String.toList_ofList, rfl, rfl, rfl, rfl⟩
  | some s =>
    obtain ⟨s', hs, rfl⟩ := Option.map_eq_some_iff.1 h
    refine ⟨String.toList_ofList, ?_⟩
    cases s with
    | index run =>
      cases hs
      refine ⟨rfl, ?_, ?_, rfl⟩
      · simp [start, Size.toNat_clamp]
      · simp [stop, Size.toNat_clamp]
    | slice first past step =>
      obtain ⟨p, hp, rfl⟩ := Option.map_eq_some_iff.1 hs
      exact ⟨rfl, toNat_bound? first, toNat_bound? past, toNat_step? hp⟩

theorem parse_of_spells {t : String} {r : Reference} (h : Spells t.toList r) :
    parse t = (ofReference? r).elim (.error (.invalidExpression t zeroStep)) .ok := by
  rw [parse, parse?_of_spells h]
  cases ho : ofReference? r <;> simp [ho]

theorem parse_of_not_spells {t : String} (h : ¬ ∃ r, Spells t.toList r) :
    parse t = .error (.invalidExpression t noForm) := by
  unfold parse
  cases hr : Reference.parse? t.toList with
  | none => rfl
  | some r => exact absurd ⟨r, spells_of_parse? hr⟩ h

/-- What is read is what a reference means that the text spells out. -/
theorem parse_eq_ok_iff {t : String} {e : Expression} :
    parse t = .ok e ↔ ∃ r, Spells t.toList r ∧ ofReference? r = some e := by
  constructor
  · intro h
    by_cases hs : ∃ r, Spells t.toList r
    · obtain ⟨r, hr⟩ := hs
      rw [parse_of_spells hr] at h
      refine ⟨r, hr, ?_⟩
      cases ho : ofReference? r with
      | none => rw [ho] at h; cases h
      | some e' => rw [ho] at h; cases h; rfl
    · rw [parse_of_not_spells hs] at h
      cases h
  · rintro ⟨r, hr, ho⟩
    rw [parse_of_spells hr, ho, Option.elim_some]

/-! ## Trying one form after the other -/

/-- A pattern, and what is made of a text that matches it with certain groups. -/
structure Rule where
  pattern : Pattern Part
  meaning : String → Groups Part → Except ReaderError Expression

/-- What a group has matched; nothing if it took no part in the match. -/
def groupText (groups : Groups Part) (part : Part) : List Char := (groups.lookup part).getD []

/-- A match of the slice form: all of a value if the name is the whole text, else a slice. -/
def sliceRule : Rule where
  pattern := sliceForm
  meaning text groups :=
    let name := groupText groups .name
    match step? (groupText groups .step) with
    | none => .error (.invalidExpression text zeroStep)
    | some step =>
      if name = text.toList then .ok ⟨String.ofList name, .all⟩
      else .ok ⟨String.ofList name,
        .slice (bound? (groupText groups .start)) (bound? (groupText groups .stop)) step⟩

/-- A match of the index form. -/
def indexRule : Rule where
  pattern := indexForm
  meaning _ groups :=
    .ok ⟨String.ofList (groupText groups .name),
      .index (Size.clamp (digitsValue (groupText groups .index)))⟩

/-- The answer of the first rule whose pattern a text matches. -/
inductive Answers (text : String) : List Rule → Except ReaderError Expression → Prop
  | matched {rule rules groups} : rule.pattern.Matches text.toList groups →
      Answers text (rule :: rules) (rule.meaning text groups)
  | passed {rule rules answer} : (∀ groups, ¬ rule.pattern.Matches text.toList groups) →
      Answers text rules answer → Answers text (rule :: rules) answer
  | refused : Answers text [] (.error (.invalidExpression text noForm))

theorem exists_answer (t : String) (rules : List Rule) : ∃ answer, Answers t rules answer := by
  induction rules with
  | nil => exact ⟨_, .refused⟩
  | cons rule rules ih =>
    by_cases h : ∃ groups, rule.pattern.Matches t.toList groups
    · obtain ⟨groups, hm⟩ := h
      exact ⟨_, .matched hm⟩
    · obtain ⟨answer, ha⟩ := ih
      exact ⟨answer, .passed (fun groups hm => h ⟨groups, hm⟩) ha⟩

/-- If every rule answers as `parse` does, and `parse` refuses what none of them matches, then
the first match answers as `parse` does, in whatever order the rules stand. -/
theorem answer_eq_parse {t : String} {rules : List Rule} {answer : Except ReaderError Expression}
    (h : Answers t rules answer)
    (sound : ∀ rule ∈ rules, ∀ groups, rule.pattern.Matches t.toList groups →
      rule.meaning t groups = parse t)
    (complete : (∀ rule ∈ rules, ∀ groups, ¬ rule.pattern.Matches t.toList groups) →
      parse t = .error (.invalidExpression t noForm)) :
    answer = parse t := by
  induction h with
  | matched hm => exact sound _ List.mem_cons_self _ hm
  | passed hn _ ih =>
    apply ih (fun rule hr => sound rule (List.mem_cons_of_mem _ hr))
    intro none
    exact complete (List.forall_mem_cons.2 ⟨hn, none⟩)
  | refused => exact (complete nofun).symm

theorem groupText_cons_self (part : Part) (run : List Char) (rest : Groups Part) :
    groupText ((part, run) :: rest) part = run := by
  simp [groupText]

theorem groupText_cons_ne {part other : Part} (run : List Char) (rest : Groups Part)
    (h : other ≠ part) : groupText ((part, run) :: rest) other = groupText rest other := by
  have : (other == part) = false := by simpa using h
  simp [groupText, List.lookup_cons, this]

theorem groupText_remember_ne {part other : Part} (run : List Char) (rest : Groups Part)
    (h : other ≠ part) : groupText (remember part run ++ rest) other = groupText rest other := by
  unfold remember
  split
  · rfl
  · exact groupText_cons_ne run rest h

theorem groupText_remember_self {part : Part} (run : List Char) {rest : Groups Part}
    (h : groupText rest part = []) : groupText (remember part run ++ rest) part = run := by
  unfold remember
  split
  · rename_i hr
    rw [hr]
    exact h
  · exact groupText_cons_self part run rest

/-- The groups of a slice give back its runs, empty for those that are missing. -/
theorem groupText_slice (name first past : List Char) (step : Option (List Char)) :
    let found := groups ⟨name, some (.slice first past step)⟩
    groupText found .name = name ∧ groupText found .start = first ∧
      groupText found .stop = past ∧ groupText found .step = step.getD [] := by
  have last (part : Part) (h : part ≠ .step) :
      groupText (remember .step (step.getD [])) part = [] := by
    rw [← List.append_nil (remember .step _), groupText_remember_ne _ _ h]
    rfl
  refine ⟨groupText_cons_self _ _ _, ?_, ?_, ?_⟩
  · rw [groups, groupText_cons_ne _ _ (by decide)]
    apply groupText_remember_self
    rw [groupText_remember_ne _ _ (by decide), last _ (by decide)]
  · rw [groups, groupText_cons_ne _ _ (by decide), groupText_remember_ne _ _ (by decide)]
    exact groupText_remember_self past (last _ (by decide))
  · rw [groups, groupText_cons_ne _ _ (by decide), groupText_remember_ne _ _ (by decide),
      groupText_remember_ne _ _ (by decide), ← List.append_nil (remember .step _)]
    exact groupText_remember_self _ rfl

theorem sliceRule_meaning {t : String} {found : Groups Part}
    (h : sliceRule.pattern.Matches t.toList found) : sliceRule.meaning t found = parse t := by
  obtain ⟨⟨name, subscript⟩, spelled, hi, rfl⟩ := sliceForm_matches_iff.1 h
  have text := spelled.eq_text
  rw [parse_of_spells spelled]
  cases subscript with
  | none =>
    have hn : groupText (groups ⟨name, none⟩) .name = t.toList :=
      (groupText_cons_self _ _ _).trans text.symm
    have hp : groupText (groups ⟨name, none⟩) .step = [] := groupText_cons_ne _ _ (by decide)
    simp only [sliceRule, hn, hp, ofReference?]
    rw [text]
    rfl
  | some s =>
    cases s with
    | index run => exact absurd ⟨run, rfl⟩ hi
    | slice first past step =>
      obtain ⟨hn, hs, ht, hp⟩ := groupText_slice name first past step
      have hne : name ≠ t.toList := by
        rw [text, Reference.text]
        simp
      simp only [sliceRule, hn, hs, ht, hp, if_neg hne, ofReference?, Subscript.ofReference?]
      cases step? (step.getD []) <;> rfl

theorem indexRule_meaning {t : String} {found : Groups Part}
    (h : indexRule.pattern.Matches t.toList found) : indexRule.meaning t found = parse t := by
  obtain ⟨⟨name, _⟩, spelled, ⟨run, rfl⟩, rfl⟩ := indexForm_matches_iff.1 h
  rw [parse_of_spells spelled]
  have hn : groupText (groups ⟨name, some (.index run)⟩) .name = name :=
    groupText_cons_self _ _ _
  have hr : groupText (groups ⟨name, some (.index run)⟩) .index = run := by
    rw [groups, groupText_cons_ne _ _ (by decide), groupText_cons_self]
  simp only [indexRule, hn, hr]
  rfl

/-- Both forms, in either order. -/
theorem answers_iff {t : String} {rules : List Rule} {answer : Except ReaderError Expression}
    (h : rules = [sliceRule, indexRule] ∨ rules = [indexRule, sliceRule]) :
    Answers t rules answer ↔ answer = parse t := by
  have members : ∀ rule, rule ∈ rules ↔ rule = sliceRule ∨ rule = indexRule := by
    rcases h with rfl | rfl <;> simp [or_comm]
  have decided : ∀ a, Answers t rules a → a = parse t := by
    intro a ha
    apply answer_eq_parse ha
    · intro rule hr found hm
      rcases (members rule).1 hr with rfl | rfl
      · exact sliceRule_meaning hm
      · exact indexRule_meaning hm
    · intro none
      apply parse_of_not_spells
      rintro ⟨r, hr⟩
      by_cases hi : r.IsIndex
      · exact none _ ((members _).2 (Or.inr rfl)) _ (indexForm_matches_iff.2 ⟨r, hr, hi, rfl⟩)
      · exact none _ ((members _).2 (Or.inl rfl)) _ (sliceForm_matches_iff.2 ⟨r, hr, hi, rfl⟩)
  constructor
  · exact decided answer
  · rintro rfl
    obtain ⟨a, ha⟩ := exists_answer t rules
    exact decided a ha ▸ ha

theorem parse_isOk_iff (t : String) :
    (∃ e, parse t = .ok e) ↔ ∃ r, Spells t.toList r ∧ ¬ r.ZeroStep := by
  simp only [parse_eq_ok_iff]
  constructor
  · rintro ⟨e, r, hr, ho⟩
    refine ⟨r, hr, fun zero => ?_⟩
    rw [(ofReference?_eq_none_iff hr).2 zero] at ho
    cases ho
  · rintro ⟨r, hr, nonzero⟩
    obtain ⟨e, ho⟩ := Option.ne_none_iff_exists'.1 (mt (ofReference?_eq_none_iff hr).1 nonzero)
    exact ⟨e, r, hr, ho⟩

/-- A refused text has a step of zero or no form at all, and the error says which. -/
theorem error_of_parse {t : String} {error : ReaderError} (h : parse t = .error error) :
    (error = .invalidExpression t zeroStep ∧ ∃ r, Spells t.toList r ∧ r.ZeroStep) ∨
      (error = .invalidExpression t noForm ∧ ¬ ∃ r, Spells t.toList r) := by
  by_cases hs : ∃ r, Spells t.toList r
  · obtain ⟨r, hr⟩ := hs
    rw [parse_of_spells hr] at h
    cases ho : ofReference? r with
    | none =>
      rw [ho] at h
      cases h
      exact Or.inl ⟨rfl, r, hr, (ofReference?_eq_none_iff hr).1 ho⟩
    | some e => rw [ho] at h; cases h
  · rw [parse_of_not_spells hs] at h
    cases h
    exact Or.inr ⟨rfl, hs⟩

theorem groups_unique {cs : List Char} {found found' : Groups Part} {form : Pattern Part}
    (hf : form ∈ [sliceForm, indexForm]) (h : form.Matches cs found)
    (h' : form.Matches cs found') : found = found' := by
  have spelled : ∀ groups, form.Matches cs groups → ∃ r, Spells cs r ∧ groups = r.groups := by
    intro groups hm
    simp only [List.mem_cons, List.not_mem_nil, or_false] at hf
    rcases hf with rfl | rfl
    · obtain ⟨r, hr, _, hg⟩ := sliceForm_matches_iff.1 hm
      exact ⟨r, hr, hg⟩
    · obtain ⟨r, hr, _, hg⟩ := indexForm_matches_iff.1 hm
      exact ⟨r, hr, hg⟩
  obtain ⟨r, hr, rfl⟩ := spelled found h
  obtain ⟨r', hr', rfl⟩ := spelled found' h'
  rw [spells_unique hr hr']

theorem forms_disjoint {cs : List Char} {found found' : Groups Part}
    (h : sliceForm.Matches cs found) : ¬ indexForm.Matches cs found' := by
  intro h'
  obtain ⟨r, hr, hi, _⟩ := sliceForm_matches_iff.1 h
  obtain ⟨r', hr', hi', _⟩ := indexForm_matches_iff.1 h'
  exact hi (spells_unique hr hr' ▸ hi')

/-- **Reading expressions.** The texts of references without a step of zero are accepted, and
no others. A text spells one reference, has at most one of the two forms and matches it in
one way, so the order in which the forms are tried does not matter. What is read means what is
written, whatever zeros a run starts with, and what is refused is given back with the reason. -/
theorem parse_reads_grammar (t : String) :
    ((∃ e, parse t = .ok e) ↔ ∃ r, Spells t.toList r ∧ ¬ r.ZeroStep) ∧
    (∀ r r', Spells t.toList r → Spells t.toList r' → r = r') ∧
    (∀ form ∈ [sliceForm, indexForm], ∀ found found',
      form.Matches t.toList found → form.Matches t.toList found' → found = found') ∧
    (∀ found found', sliceForm.Matches t.toList found → ¬ indexForm.Matches t.toList found') ∧
    (∀ answer, (Answers t [sliceRule, indexRule] answer ↔ answer = parse t) ∧
      (Answers t [indexRule, sliceRule] answer ↔ answer = parse t)) ∧
    (∀ e, parse t = .ok e → ∃ r, Spells t.toList r ∧ e.Means r) ∧
    (∀ k run, digitsValue (List.replicate k '0' ++ run) = digitsValue run) ∧
    (∀ error, parse t = .error error →
      (error = .invalidExpression t "slice step cannot be zero" ∧
          ∃ r, Spells t.toList r ∧ r.ZeroStep) ∨
        (error = .invalidExpression t
            "expected `name`, `name[index]` or `name[start:stop:step]`" ∧
          ¬ ∃ r, Spells t.toList r)) := by
  refine ⟨parse_isOk_iff t, fun _ _ => spells_unique, fun _ hf _ _ => groups_unique hf,
    fun _ _ => forms_disjoint, fun _ => ⟨answers_iff (Or.inl rfl), answers_iff (Or.inr rfl)⟩,
    ?_, digitsValue_zeros_append, fun _ => error_of_parse⟩
  intro e he
  obtain ⟨r, hr, ho⟩ := parse_eq_ok_iff.1 he
  exact ⟨r, hr, means_of_ofReference? ho⟩

end Expression

end TreeSpec
