import TreeSpec.Proofs.Json.RoundTrip
import TreeSpec.Proofs.Token.Streaming

/-!
# Tokens and their texts

A token is read back from its JSON text, and from the value that the text denotes
(`text_reads_back`).
-/

namespace TreeSpec.Token

open Json

/-- The value of a member of a token. -/
def value (t : Token) : Member → Value
  | .tabLevel => .number (.integer (sizeInteger t.tabLevel))
  | .text field => .string (t.get field)

theorem toValue_eq (t : Token) :
    t.toValue = .object (Member.all.map fun m => (m.key, t.value m)) :=
  rfl

namespace Draft

/-- The draft that holds some members of a token. -/
def holding (t : Token) (members : List Member) : Draft where
  tabLevel := if .tabLevel ∈ members then some t.tabLevel else none
  text field := if .text field ∈ members then some (t.get field) else none

theorem holding_nil (t : Token) : holding t [] = empty := by
  simp [holding, empty]

theorem has_holding (t : Token) (members : List Member) (m : Member) :
    (holding t members).has m = decide (m ∈ members) := by
  cases m with
  | tabLevel =>
    simp only [has, holding]
    split <;> simp_all
  | text field =>
    simp only [has, holding]
    split <;> simp_all

theorem levelOfNumber_sizeInteger (s : Size) :
    levelOfNumber (.integer (sizeInteger s)) = .ok s := by
  have fits : Size.ofInt? (sizeInteger s).val = some s := Size.ofNat?_eq_some_iff.2 rfl
  rw [levelOfNumber, fits]

/-- A draft of a token takes the value of a further member of the token. -/
theorem readValue_holding (t : Token) (members : List Member) (m : Member) :
    (holding t members).readValue m (t.value m) = .ok (holding t (m :: members)) := by
  cases m with
  | tabLevel =>
    simp [readValue, value, levelOfNumber_sizeInteger, Except.map, withTabLevel, holding]
  | text field =>
    simp only [readValue, value, withText, holding, List.mem_cons, reduceCtorEq, false_or,
      Member.text.injEq, Except.ok.injEq, mk.injEq, true_and]
    funext f
    by_cases h : f = field
    · subst h
      simp
    · simp [h]

theorem token_holding {t : Token} {members : List Member} (h : ∀ m, m ∈ members) :
    (holding t members).token = .ok t := by
  simp [token, holding, h, ofTexts_get]

end Draft

theorem Member.ofKey?_key (m : Member) : ofKey? m.key = some m := by
  rcases m with _ | f
  · rfl
  · cases f <;> rfl

/-- A draft of a token takes further members of the token from a text, one after the other. -/
theorem Draft.takesAll_holding (t : Token) {todo : List Member} (nodup : todo.Nodup) :
    ∀ {seen : List Member} {members : List (List Piece × Written)}, (∀ m ∈ todo, m ∉ seen) →
      memberValues? members = some (todo.map fun m => (m.key, t.value m)) →
      (holding t seen).TakesAll members (holding t (todo.reverse ++ seen)) := by
  induction todo with
  | nil =>
    intro seen members _ values
    cases members with
    | nil => rfl
    | cons p members =>
      obtain ⟨_, _, _, _, _, _, h⟩ := memberValues?_cons_iff.1 values
      exact nomatch h
  | cons m todo ih =>
    intro seen members fresh values
    obtain ⟨absent, nodup⟩ := List.nodup_cons.1 nodup
    cases members with
    | nil => exact nomatch values
    | cons p members =>
      obtain ⟨pieces, w⟩ := p
      obtain ⟨key, v, more, hd, hv, rest, h⟩ := memberValues?_cons_iff.1 values
      obtain ⟨head, rfl⟩ := List.cons.inj h
      obtain ⟨hk, rfl⟩ := Prod.mk.inj head
      have new : (holding t seen).has m = false := by
        rw [has_holding, decide_eq_false (fresh m List.mem_cons_self)]
      have takes : (holding t seen).Takes (String.ofList key) w (holding t (m :: seen)) := by
        rw [← hk, Takes, Member.ofKey?_key]
        exact ⟨new, _, hv, readValue_holding t seen m⟩
      have fresh' : ∀ m' ∈ todo, m' ∉ m :: seen := by
        intro m' hm'
        rw [List.mem_cons, not_or]
        exact ⟨fun h => absent (h ▸ hm'), fresh m' (List.mem_cons_of_mem m hm')⟩
      rw [List.reverse_cons, List.append_assoc]
      exact ⟨key, _, hd, takes, ih nodup fresh' rest⟩

/-- A draft of a token takes further members of the token from a value. -/
theorem Draft.readValues_holding (t : Token) (todo : List Member) :
    ∀ seen, (holding t seen).readValues (todo.map fun m => (m, t.value m)) =
      .ok (holding t (todo.reverse ++ seen)) := by
  induction todo with
  | nil =>
    intro seen
    rfl
  | cons m todo ih =>
    intro seen
    rw [List.map_cons, readValues, readValue_holding, List.reverse_cons, List.append_assoc]
    exact ih (m :: seen)

theorem member?_toValue (t : Token) (m : Member) :
    member? (Member.all.map fun m => (m.key, t.value m)) m.key = some (t.value m) := by
  rcases m with _ | f
  · rfl
  · cases f <;> rfl

theorem Member.mem_all (m : Member) : m ∈ all := by
  rcases m with _ | f
  · decide
  · cases f <;> decide

theorem Member.mem_byKey (m : Member) : m ∈ byKey := by
  rcases m with _ | f
  · decide
  · cases f <;> decide

theorem ofValue_toValue (t : Token) : ofValue t.toValue = .ok t := by
  have present : (Member.byKey.filterMap fun m =>
      (member? (Member.all.map fun m => (m.key, t.value m)) m.key).map (m, ·)) =
        Member.byKey.map fun m => (m, t.value m) := by
    simp only [member?_toValue, Option.map_some]
    exact congrFun List.filterMap_eq_map Member.byKey
  have read := Draft.readValues_holding t Member.byKey []
  have complete : ∀ m, m ∈ Member.byKey.reverse ++ [] := by simp [Member.mem_byKey]
  rw [Draft.holding_nil] at read
  rw [toValue_eq, ofValue]
  simp only [present, read]
  exact Draft.token_holding complete

theorem isExact_toValue (t : Token) : t.toValue.IsExact := by
  simp [toValue, Value.IsExact, MembersExact, Field.all]

theorem parse?_text (t : Token) : Value.parse? t.text.toList = some t.toValue := by
  rw [text, String.toList_ofList]
  exact Value.parse?_text (isExact_toValue t)

theorem ofText_text (t : Token) : ofText t.text = .ok t := by
  obtain ⟨members, written, values⟩ := exists_members (parse?_text t)
  have nodup : Member.all.Nodup := by decide
  have takes := Draft.takesAll_holding t nodup (fun _ _ => List.not_mem_nil) values
  have complete : ∀ m, m ∈ Member.all.reverse ++ [] := by simp [Member.mem_all]
  rw [Draft.holding_nil] at takes
  exact (ofText_object_iff written).2 ⟨_, takes, Draft.token_holding complete⟩

theorem text_reads_back (t : Token) :
    ofText t.text = .ok t ∧
      (∃ v, Value.parse? t.text.toList = some v ∧ ofValue v = .ok t) ∧
      ∀ u : Token, t.text = u.text ↔ t = u := by
  refine ⟨ofText_text t, ⟨t.toValue, parse?_text t, ofValue_toValue t⟩, fun u => ?_⟩
  constructor
  · intro h
    have read := ofText_text t
    rw [h, ofText_text u] at read
    exact (Except.ok.inj read).symm
  · rintro rfl
    rfl

end TreeSpec.Token
