import Mathlib.Data.String.Basic
import TreeSpec.Proofs.Token.Given

/-!
# The shapes of a token

A value of JSON holds a token in one of two shapes: an object with the members by name, or an array
with the members in the order of declaration. Both are read alike, and differ only in what they
give for a member and in the order in which the members are visited. So what a value is read as,
and which error it has, follows from its shape (`value_read_by_shape`).
-/

namespace TreeSpec.Token

open Json

section Objects

variable {members : List (String × Value)} {t : Token} {e : ContentError}

/-- What an object gives for a member of a token. -/
def byName (members : List (String × Value)) (m : Member) : Option Value := member? members m.key

theorem byKey_sorted : Member.byKey.Pairwise (·.key < ·.key) := by
  decide

theorem ofValue_object_eq : ofValue (.object members) =
    match Draft.empty.readValues (inOrder Member.byKey (byName members)) with
    | .error e => .error e
    | .ok d => d.token :=
  rfl

theorem ofValue_object_ok_iff :
    ofValue (.object members) = .ok t ↔ t.Given (byName members) := by
  rw [ofValue_object_eq]
  cases read : Draft.empty.readValues (inOrder Member.byKey (byName members)) with
  | error e =>
    refine iff_of_false nofun ?_
    intro given
    exact not_allFit_of_error byKey_sorted Member.mem_byKey read given.allFit
  | ok d =>
    have holds := value?_of_read byKey_sorted.nodup Member.mem_byKey read
    rw [← holds]
    exact Draft.token_eq_ok_iff

end Objects

section Arrays

variable {elements : List Value} {t : Token} {e : ContentError}

/-- The place of a member in the order of declaration. -/
def Member.place (m : Member) : Nat := Member.all.idxOf m

/-- What an array gives for a member of a token. -/
def byPlace (elements : List Value) (m : Member) : Option Value := elements[m.place]?

theorem all_sorted : Member.all.Pairwise (·.place < ·.place) := by
  decide

theorem zip_eq_filterMap [DecidableEq α] {as : List α} (nodup : as.Nodup) (bs : List β) :
    as.zip bs = as.filterMap fun a => bs[as.idxOf a]?.map (a, ·) := by
  induction as generalizing bs with
  | nil => rfl
  | cons a as ih =>
    obtain ⟨new, nodup⟩ := List.nodup_cons.1 nodup
    cases bs with
    | nil => simp
    | cons b bs =>
      have first : (b :: bs)[(a :: as).idxOf a]? = some b := by simp
      rw [List.zip_cons_cons, ih nodup bs, List.filterMap_cons, first]
      simp only [Option.map_some, List.cons.injEq, true_and]
      apply List.filterMap_congr
      intro a' ha'
      have apart : a ≠ a' := fun same => new (same ▸ ha')
      rw [List.idxOf_cons_ne _ apart, List.getElem?_cons_succ]

theorem ofValue_array_eq : ofValue (.array elements) =
    match Draft.empty.readValues (inOrder Member.all (byPlace elements)) with
    | .error e => .error e
    | .ok d =>
      if elements.isEmpty then .error .emptyArray
      else if 7 < elements.length then .error (.longArray elements.length)
      else d.token := by
  have present : Member.all.zip elements = inOrder Member.all (byPlace elements) :=
    zip_eq_filterMap all_sorted.nodup elements
  rw [← present]
  rfl

theorem ofValue_array_ok_iff :
    ofValue (.array elements) = .ok t ↔ elements.length ≤ 7 ∧ t.Given (byPlace elements) := by
  rw [ofValue_array_eq]
  cases read : Draft.empty.readValues (inOrder Member.all (byPlace elements)) with
  | error e =>
    refine iff_of_false nofun ?_
    rintro ⟨-, given⟩
    exact not_allFit_of_error all_sorted Member.mem_all read given.allFit
  | ok d =>
    have holds := value?_of_read all_sorted.nodup Member.mem_all read
    dsimp only
    split
    · rename_i none
      refine iff_of_false nofun ?_
      rintro ⟨-, ⟨n, number, -⟩, -⟩
      rw [List.isEmpty_iff.1 none] at number
      cases number
    · split
      · rename_i long
        refine iff_of_false nofun ?_
        rintro ⟨short, -⟩
        omega
      · rename_i short
        rw [Draft.token_eq_ok_iff, holds]
        exact (and_iff_right (Nat.not_lt.1 short)).symm

end Arrays

/-- The shapes of a value that holds a token. -/
inductive Shaped : Value → Prop
  | object {members : List (String × Value)} (level : byName members .tabLevel ≠ none)
      (fit : AllFit (byName members)) : Shaped (.object members)
  | array {elements : List Value} (some : 1 ≤ elements.length) (short : elements.length ≤ 7)
      (fit : AllFit (byPlace elements)) : Shaped (.array elements)

end TreeSpec.Token
