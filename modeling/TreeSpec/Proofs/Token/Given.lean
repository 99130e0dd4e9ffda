import TreeSpec.Proofs.Token.Agreement

/-!
# What is given for the members of a token

A draft reads the members that are given one after the other, in some order. The first one that is
not what it has to be decides on the error (`read_error_iff`). If there is none, then the draft
holds just what is given (`value?_of_read`), and so does its token, with empty texts for those that
are not given (`Draft.token_eq_ok_iff`).
-/

namespace TreeSpec

namespace Token

open Json

/-- What a member has to be: an integer that is not negative for the depth, and a string for a
text. No integer of JSON is larger than all sizes. -/
def Member.Fits : Member → Value → Prop
  | .tabLevel, v => ∃ n : Integer, v = .number (.integer n) ∧ 0 ≤ n.val
  | .text _, v => ∃ s, v = .string s

/-- What is wrong with a member that is not what it has to be. -/
inductive Misfit : Member → Value → ContentError → Prop
  | negative {n : Integer} (below : n.val < 0) :
      Misfit .tabLevel (.number (.integer n)) (.negative n.val)
  | level {v : Value} (other : ∀ n, v ≠ .number (.integer n)) :
      Misfit .tabLevel v (.invalidType (Found.ofValue v) .size)
  | text {field : Field} {v : Value} (other : ∀ s, v ≠ .string s) :
      Misfit (.text field) v (.invalidType (Found.ofValue v) .string)

/-- The members of a token are those that are given. A text that is not given is empty. -/
structure Given (t : Token) (given : Member → Option Value) : Prop where
  level : ∃ n, given .tabLevel = some (.number (.integer n)) ∧ n.val = t.tabLevel.toNat
  texts : ∀ field, given (.text field) = some (.string (t.get field)) ∨
    given (.text field) = none ∧ t.get field = ""

theorem Misfit.not_fits {m : Member} {v : Value} {e : ContentError} (h : Misfit m v e) :
    ¬ m.Fits v := by
  cases h with
  | negative below =>
    rintro ⟨n, same, least⟩
    cases same
    omega
  | level other =>
    rintro ⟨n, rfl, -⟩
    exact other n rfl
  | text other =>
    rintro ⟨s, rfl⟩
    exact other s rfl

theorem eq_sizeInteger {n : Integer} {level : Size} (h : n.val = level.toNat) :
    n = sizeInteger level := by
  obtain ⟨val, lower, upper⟩ := n
  cases h
  rfl

theorem levelOfNumber_eq_ok_iff {n : Integer} {level : Size} :
    levelOfNumber (.integer n) = .ok level ↔ n.val = level.toNat := by
  rw [← Size.ofInt?_eq_some_iff, levelOfNumber]
  cases Size.ofInt? n.val <;> simp

theorem levelOfNumber_eq_error_iff {n : Integer} {e : ContentError} :
    levelOfNumber (.integer n) = .error e ↔ n.val < 0 ∧ e = .negative n.val := by
  by_cases below : n.val < 0
  · have none : Size.ofInt? n.val = none := by
      rw [Option.eq_none_iff_forall_ne_some]
      intro level fits
      rw [Size.ofInt?_eq_some_iff] at fits
      omega
    simp [levelOfNumber, none, below, eq_comm]
  · have fits : levelOfNumber (.integer n) = .ok (Size.clamp n.val.toNat) := by
      rw [levelOfNumber_eq_ok_iff, Size.toNat_clamp]
      have := n.upper
      omega
    simp [fits, below]

namespace Draft

variable {d d' : Draft} {m : Member} {v : Value} {e : ContentError}

/-- What a draft holds for a member. -/
def value? (d : Draft) : Member → Option Value
  | .tabLevel => d.tabLevel.map fun level => .number (.integer (sizeInteger level))
  | .text field => (d.text field).map .string

theorem value?_empty (m : Member) : empty.value? m = none := by
  cases m <;> rfl

/-- A member that is read is what it has to be, and is then held by the draft. The other members
are unchanged. -/
theorem value?_readValue (h : d.readValue m v = .ok d') :
    m.Fits v ∧ ∀ m', d'.value? m' = if m' = m then some v else d.value? m' := by
  cases m with
  | tabLevel =>
    obtain ⟨n, level, rfl, number, rfl⟩ := readValue_tabLevel_iff.1 h
    obtain ⟨n, rfl⟩ := exists_integer_of_level number
    have val := levelOfNumber_eq_ok_iff.1 number
    refine ⟨⟨n, rfl, by omega⟩, ?_⟩
    rw [eq_sizeInteger val]
    intro m'
    cases m' <;> rfl
  | text field =>
    obtain ⟨s, rfl, rfl⟩ := readValue_text_iff.1 h
    refine ⟨⟨s, rfl⟩, ?_⟩
    intro m'
    cases m' with
    | tabLevel => rfl
    | text field' => by_cases same : field' = field <;> simp [value?, withText, same]

/-- Reading a member fails just when it is not what it has to be. -/
theorem readValue_eq_error_iff : d.readValue m v = .error e ↔ Misfit m v e := by
  constructor
  · intro h
    cases m with
    | tabLevel =>
      cases v with
      | number n =>
        cases n with
        | integer n =>
          have number : levelOfNumber (.integer n) = .error e := by
            rw [readValue] at h
            cases number : levelOfNumber (.integer n) with
            | error e' => simpa [number, Except.map] using h
            | ok level => simp [number, Except.map] at h
          obtain ⟨below, rfl⟩ := levelOfNumber_eq_error_iff.1 number
          exact .negative below
        | floating n =>
          cases h
          apply Misfit.level
          rintro n ⟨⟩
      | _ =>
        cases h
        apply Misfit.level
        rintro n ⟨⟩
    | text field =>
      cases v with
      | string s => cases h
      | _ =>
        cases h
        apply Misfit.text
        rintro s ⟨⟩
  · intro h
    cases h with
    | @negative n below =>
      rw [readValue, levelOfNumber_eq_error_iff.2 ⟨below, rfl⟩]
      rfl
    | level other =>
      cases v with
      | number n =>
        cases n with
        | integer n => exact absurd rfl (other n)
        | floating n => rfl
      | _ => rfl
    | text other =>
      cases v with
      | string s => exact absurd rfl (other s)
      | _ => rfl

/-- Reading fails at the first of the members that is not what it has to be. -/
theorem readValues_eq_error_iff {present : List (Member × Value)} :
    d.readValues present = .error e ↔
      ∃ before m v after, present = before ++ (m, v) :: after ∧
        (∀ p ∈ before, p.1.Fits p.2) ∧ Misfit m v e := by
  induction present generalizing d with
  | nil =>
    refine iff_of_false nofun ?_
    rintro ⟨before, m, v, after, split, -⟩
    simp at split
  | cons p present ih =>
    obtain ⟨m₀, v₀⟩ := p
    rw [readValues]
    cases read : d.readValue m₀ v₀ with
    -- nothing stands before the member that fails, so it is the first misfit
    | error e' =>
      have misfit₀ := readValue_eq_error_iff.1 read
      constructor
      · rintro ⟨⟩
        exact ⟨[], m₀, v₀, present, rfl, by simp, misfit₀⟩
      · rintro ⟨before, m, v, after, split, fits, misfit⟩
        cases before with
        | nil =>
          cases split
          have failed : d.readValue m₀ v₀ = .error e := readValue_eq_error_iff.2 misfit
          exact read.symm.trans failed
        | cons p before =>
          cases split
          exact absurd (fits (m₀, v₀) List.mem_cons_self) misfit₀.not_fits
    -- the member fits, so the first misfit is the one behind it
    | ok next =>
      have fits₀ := (value?_readValue read).1
      dsimp only
      rw [ih]
      constructor
      · rintro ⟨before, m, v, after, rfl, fits, misfit⟩
        refine ⟨(m₀, v₀) :: before, m, v, after, rfl, ?_, misfit⟩
        intro p hp
        rcases List.mem_cons.1 hp with rfl | hp
        · exact fits₀
        · exact fits p hp
      · rintro ⟨before, m, v, after, split, fits, misfit⟩
        cases before with
        | nil =>
          cases split
          exact absurd fits₀ misfit.not_fits
        | cons p before =>
          cases split
          refine ⟨before, m, v, after, rfl, ?_, misfit⟩
          intro p hp
          exact fits p (List.mem_cons_of_mem _ hp)

/-- A draft holds the members that it has read, and of the others those that it held before. -/
theorem value?_readValues {present : List (Member × Value)} (nodup : (present.map Prod.fst).Nodup)
    (h : d.readValues present = .ok d') (m : Member) (v : Value) :
    d'.value? m = some v ↔
      (m, v) ∈ present ∨ m ∉ present.map Prod.fst ∧ d.value? m = some v := by
  induction present generalizing d with
  | nil =>
    cases h
    simp
  | cons p present ih =>
    obtain ⟨m₀, v₀⟩ := p
    obtain ⟨new, nodup⟩ := List.nodup_cons.1 nodup
    obtain ⟨next, read, rest⟩ := readValues_cons_iff.1 h
    rw [ih nodup rest, (value?_readValue read).2]
    by_cases same : m = m₀
    · subst same
      have once : (m, v) ∉ present := fun hm => new (List.mem_map.2 ⟨(m, v), hm, rfl⟩)
      simp [new, once, eq_comm]
    · simp [same]

end Draft

/-- Every member that is given is what it has to be. -/
def AllFit (value : Member → Option Value) : Prop := ∀ m v, value m = some v → m.Fits v

/-- What is wrong with the first of the members that are given and are not what they have to be,
the one at the smallest place. -/
def FirstMisfit [LT α] (place : Member → α) (value : Member → Option Value)
    (e : ContentError) : Prop :=
  ∃ m v, value m = some v ∧ Misfit m v e ∧
    ∀ m' v', place m' < place m → value m' = some v' → m'.Fits v'

theorem Given.allFit {t : Token} {value : Member → Option Value} (h : t.Given value) :
    AllFit value := by
  intro m v present
  cases m with
  | tabLevel =>
    obtain ⟨n, number, val⟩ := h.level
    rw [present] at number
    exact ⟨n, Option.some.inj number, by omega⟩
  | text field =>
    rcases h.texts field with string | ⟨absent, -⟩
    · rw [present] at string
      exact ⟨_, Option.some.inj string⟩
    · rw [present] at absent
      cases absent

namespace Draft

variable {d : Draft} {t : Token} {e : ContentError}

/-- The token of a draft has the members that the draft holds. -/
theorem token_eq_ok_iff : d.token = .ok t ↔ t.Given d.value? := by
  obtain ⟨tabLevel, text⟩ := d
  cases tabLevel with
  | none =>
    refine iff_of_false nofun ?_
    rintro ⟨⟨n, number, -⟩, -⟩
    cases number
  | some level =>
    constructor
    · rintro ⟨⟩
      refine ⟨⟨sizeInteger level, rfl, rfl⟩, ?_⟩
      intro field
      rw [get_ofTexts]
      cases held : text field <;> simp [value?, held]
    · rintro ⟨⟨n, number, val⟩, texts⟩
      cases number
      have same : level = t.tabLevel := UInt64.toNat.inj (Int.natCast_inj.1 val)
      have get (field : Field) : (text field).getD "" = t.get field := by
        have given := texts field
        simp only [value?] at given
        cases held : text field with
        | none =>
          have empty : t.get field = "" := by simpa [held] using given
          exact empty.symm
        | some s => simpa [held] using given
      rw [token, same, funext get]
      exact congrArg Except.ok (ofTexts_get t)

end Draft

/-- The members that are given, in some order. -/
def inOrder (order : List Member) (value : Member → Option Value) : List (Member × Value) :=
  order.filterMap fun m => (value m).map (m, ·)

section Outcomes

variable {order : List Member} {value : Member → Option Value} {e : ContentError}
variable [Preorder α] {place : Member → α}

theorem mem_inOrder_iff (complete : ∀ m, m ∈ order) {m : Member} {v : Value} :
    (m, v) ∈ inOrder order value ↔ value m = some v := by
  simp [inOrder, complete]

theorem inOrder_sorted (sorted : order.Pairwise (place · < place ·)) :
    (inOrder order value).Pairwise (place ·.1 < place ·.1) := by
  refine List.Pairwise.filterMap _ ?_ sorted
  intro m m' before p hp p' hp'
  obtain ⟨v, -, rfl⟩ := Option.map_eq_some_iff.1 hp
  obtain ⟨v', -, rfl⟩ := Option.map_eq_some_iff.1 hp'
  exact before

/-- Whatever the order is, reading fails at the misfit that comes first in it. -/
theorem read_error_iff (sorted : order.Pairwise (place · < place ·)) (complete : ∀ m, m ∈ order) :
    Draft.empty.readValues (inOrder order value) = .error e ↔ FirstMisfit place value e := by
  have ascending : (inOrder order value).Pairwise (place ·.1 < place ·.1) := inOrder_sorted sorted
  rw [Draft.readValues_eq_error_iff]
  constructor
  · rintro ⟨before, m, v, after, split, fits, misfit⟩
    have present : value m = some v := (mem_inOrder_iff complete).1 (by simp [split])
    refine ⟨m, v, present, misfit, ?_⟩
    intro m' v' earlier present'
    have given := (mem_inOrder_iff complete).2 present'
    rw [split] at given ascending
    -- what is earlier cannot stand behind the misfit, since places ascend
    rcases List.mem_append.1 given with given | given
    · exact fits (m', v') given
    · have behind := List.pairwise_cons.1 (List.pairwise_append.1 ascending).2.1
      rcases List.mem_cons.1 given with same | given
      · cases same
        exact absurd earlier (lt_irrefl _)
      · exact absurd earlier (lt_asymm (behind.1 (m', v') given))
  · rintro ⟨m, v, present, misfit, first⟩
    obtain ⟨before, after, split⟩ := List.append_of_mem ((mem_inOrder_iff complete).2 present)
    refine ⟨before, m, v, after, split, ?_, misfit⟩
    intro p hp
    have given : p ∈ inOrder order value := split ▸ List.mem_append_left _ hp
    rw [split] at ascending
    have earlier := (List.pairwise_append.1 ascending).2.2 p hp (m, v) List.mem_cons_self
    exact first p.1 p.2 earlier ((mem_inOrder_iff complete).1 given)

theorem not_allFit_of_error (sorted : order.Pairwise (place · < place ·))
    (complete : ∀ m, m ∈ order)
    (h : Draft.empty.readValues (inOrder order value) = .error e) : ¬ AllFit value := by
  intro fit
  obtain ⟨m, v, present, misfit, -⟩ := (read_error_iff sorted complete).1 h
  exact misfit.not_fits (fit m v present)

/-- A draft that is read holds just what is given. -/
theorem value?_of_read {d : Draft} (nodup : order.Nodup) (complete : ∀ m, m ∈ order)
    (h : Draft.empty.readValues (inOrder order value) = .ok d) : d.value? = value := by
  have once : ((inOrder order value).map Prod.fst).Nodup :=
    nodup_keys Function.injective_id nodup value
  funext m
  ext v
  rw [Draft.value?_readValues once h, mem_inOrder_iff complete, Draft.value?_empty]
  simp

end Outcomes

end Token

end TreeSpec
