import Mathlib.Data.List.Sort
import TreeSpec.Proofs.ByteOrder
import TreeSpec.Proofs.Selection

/-!
# The names in an unknown-variable error

Names are bound in no particular order, but an error lists them sorted, and only then is the list
cut off. So what is listed are the smallest bound names (`names_listed`), and these depend on
nothing but which names are bound and how many of them may be listed.
-/

namespace TreeSpec

open Text

namespace Namespace

variable (ns : Namespace γ)

theorem mem_sortedNames_iff {n : String} : n ∈ ns.sortedNames ↔ n ∈ ns.names :=
  List.mem_mergeSort

/-- Since no name is bound twice, the sorted names ascend strictly. -/
theorem sortedNames_ascending : ns.sortedNames.Pairwise (· < ·) := by
  have sorted : ns.sortedNames.Pairwise (· ≤ ·) := by
    refine (List.pairwise_mergeSort ?_ ?_ ns.names).imp fun h => of_decide_eq_true h
    · intro a b c hab hbc
      simp only [decide_eq_true_eq] at hab hbc ⊢
      exact le_trans hab hbc
    · intro a b
      simp only [Bool.or_eq_true, decide_eq_true_eq]
      exact le_total a b
  have distinct : ns.sortedNames.Nodup :=
    (List.mergeSort_perm ns.names _).nodup_iff.2 ns.distinct
  exact sorted.imp₂ (fun _ _ le ne => lt_of_le_of_ne le ne) distinct

/-- The sorted names depend only on which names are bound. -/
theorem sortedNames_congr {ns : Namespace γ} {ns' : Namespace δ}
    (same : ∀ n, n ∈ ns'.names ↔ n ∈ ns.names) : ns'.sortedNames = ns.sortedNames := by
  apply ns'.sortedNames_ascending.eq_of_mem_iff ns.sortedNames_ascending
  intro n
  rw [mem_sortedNames_iff, mem_sortedNames_iff, same]

theorem lookup_isSome_of_mem {name : String} (h : name ∈ ns.names) : (ns.lookup name).isSome := by
  obtain ⟨b, hb, rfl⟩ := List.mem_map.1 h
  rw [Option.isSome_iff_ne_none, lookup, Ne, List.lookup_eq_none_iff]
  intro absent
  simpa using absent b hb

end Namespace

/-- What the names in an error have to be: the smallest of the bound names by the bytes of their
encoding, at most `cap` of them, and without the name that is not bound. -/
structure ListsSmallest (names : List String) (unbound : String) (cap : Nat)
    (known : List String) : Prop where
  ascending : known.Pairwise (utf8 · < utf8 ·)
  counted : known.length = min cap names.length
  bound : ∀ n ∈ known, n ∈ names
  apart : unbound ∉ known
  smallest : ∀ n ∈ names, n ∉ known → ∀ k ∈ known, utf8 k < utf8 n

theorem knownNames_smallest (settings : Settings) (ns : Namespace γ) {name : String}
    (unbound : ns.lookup name = none) :
    ListsSmallest ns.names name settings.maxKnownNames.toNat (settings.knownNames ns) where
  ascending := by
    apply List.Pairwise.imp utf8_lt_iff.2
    exact ns.sortedNames_ascending.sublist (List.take_sublist _ _)
  counted := by
    rw [Settings.knownNames, List.length_take, Namespace.sortedNames, List.length_mergeSort]
  bound n hn := ns.mem_sortedNames_iff.1 (List.mem_of_mem_take hn)
  apart listed := by
    have bound := ns.mem_sortedNames_iff.1 (List.mem_of_mem_take listed)
    have found := ns.lookup_isSome_of_mem bound
    rw [unbound] at found
    cases found
  smallest n hn left k kept := by
    rw [utf8_lt_iff]
    let cap := settings.maxKnownNames.toNat
    have split : ns.sortedNames.take cap ++ ns.sortedNames.drop cap = ns.sortedNames :=
      List.take_append_drop _ _
    -- a name that is left out stands behind the cut, so all that are listed stand before it
    have behind : n ∈ ns.sortedNames.drop cap := by
      have listed := ns.mem_sortedNames_iff.2 hn
      rw [← split] at listed
      exact (List.mem_append.1 listed).resolve_left left
    have ascending := ns.sortedNames_ascending
    rw [← split] at ascending
    exact (List.pairwise_append.1 ascending).2.2 k kept n behind

theorem knownNames_isPrefix {settings settings' : Settings} {ns : Namespace γ}
    {ns' : Namespace δ} (same : ∀ n, n ∈ ns'.names ↔ n ∈ ns.names)
    (h : settings.maxKnownNames ≤ settings'.maxKnownNames) :
    settings.knownNames ns <+: settings'.knownNames ns' := by
  rw [Settings.knownNames, Settings.knownNames, Namespace.sortedNames_congr same]
  exact List.take_prefix_take_left (UInt64.le_iff_toNat_le.1 h)

section
variable [Cluster γ α] {e : Expression} {ns : Namespace γ}

theorem resolveExpression_of_unbound (settings : Settings) (unbound : ns.lookup e.name = none) :
    (settings.resolveExpression e ns).answer =
      .error (.unknownVariable e.name (settings.knownNames ns)) := by
  simp only [Settings.resolveExpression, unbound]

end

/-- **Known names.** Names are in the same order by their bytes as by their code points. If a name
is not bound, then the error lists the smallest bound names, as many as may be listed. Whatever
name is looked up, and whatever values are bound in whatever order, the same bound names give the
same list; and if more may be listed, the list goes on where the shorter one ends. -/
theorem names_listed [Cluster γ α] [Cluster δ β] (ns : Namespace γ) {e : Expression}
    (unbound : ns.lookup e.name = none) :
    (∀ a b : String, utf8 a < utf8 b ↔ a.toList < b.toList) ∧
    ∀ settings : Settings, ∃ known,
      (settings.resolveExpression e ns).answer = .error (.unknownVariable e.name known) ∧
      (∀ t, Expression.parse t = .ok e →
        (settings.resolve t ns).answer = .error (.unknownVariable e.name known)) ∧
      ListsSmallest ns.names e.name settings.maxKnownNames.toNat known ∧
      ∀ (settings' : Settings) (ns' : Namespace δ) (e' : Expression),
        (∀ n, n ∈ ns'.names ↔ n ∈ ns.names) → ns'.lookup e'.name = none →
        ∃ known',
          (settings'.resolveExpression e' ns').answer =
            .error (.unknownVariable e'.name known') ∧
          (settings.maxKnownNames = settings'.maxKnownNames → known = known') ∧
          (settings.maxKnownNames ≤ settings'.maxKnownNames → known <+: known') := by
  refine ⟨fun a b => utf8_lt_iff, fun settings => ⟨settings.knownNames ns, ?_, ?_, ?_, ?_⟩⟩
  · exact resolveExpression_of_unbound settings unbound
  · intro t parsed
    rw [resolve_of_parse settings parsed, resolveExpression_of_unbound settings unbound]
  · exact knownNames_smallest settings ns unbound
  · intro settings' ns' e' same unbound'
    refine ⟨settings'.knownNames ns', resolveExpression_of_unbound settings' unbound', ?_,
      knownNames_isPrefix same⟩
    intro cap
    rw [Settings.knownNames, Settings.knownNames, Namespace.sortedNames_congr same, cap]

/-- Names with encodings of up to four bytes and the empty name, bound in two ways. Four of them are
listed; the last character of three bytes comes before the one of four. -/
theorem names_listed_all_widths :
    let e : Expression := ⟨"q", .all⟩
    let ns : Namespace (List Nat) :=
      ⟨[("\uffff", [1]), ("😀", []), ("z", [2]), ("", []), ("é", [3, 4])], by decide⟩
    let ns' : Namespace Json.Value :=
      ⟨[("", .null), ("é", .null), ("😀", .null), ("\uffff", .null), ("z", .null)], by decide⟩
    let settings : Settings := { maxKnownNames := 4 }
    (ns.lookup e.name = none ∧ ns'.lookup e.name = none ∧ ∀ n, n ∈ ns'.names ↔ n ∈ ns.names) ∧
    (settings.resolveExpression e ns).answer =
      .error (.unknownVariable "q" ["", "z", "é", "\uffff"]) ∧
    ListsSmallest ns.names "q" 4 ["", "z", "é", "\uffff"] ∧
    ∃ known,
      (({} : Settings).resolveExpression e ns').answer = .error (.unknownVariable "q" known) ∧
        ["", "z", "é", "\uffff"] <+: known := by
  intro e ns ns' settings
  have unbound : ns.lookup e.name = none := by decide
  have unbound' : ns'.lookup e.name = none := by decide
  have same : ∀ n, n ∈ ns'.names ↔ n ∈ ns.names := by
    intro n
    simp only [Namespace.names, List.map_cons, List.map_nil, List.mem_cons, ns, ns']
    tauto
  have sorted : ns.sortedNames = ["", "z", "é", "\uffff", "😀"] := by
    apply ns.sortedNames_ascending.eq_of_mem_iff (by decide)
    intro n
    rw [Namespace.mem_sortedNames_iff]
    simp only [Namespace.names, List.map_cons, List.map_nil, List.mem_cons, ns]
    tauto
  have given : settings.knownNames ns = ["", "z", "é", "\uffff"] := by
    rw [Settings.knownNames, sorted]
    rfl
  have answer := resolveExpression_of_unbound settings unbound
  obtain ⟨known, answered, _, smallest, others⟩ :=
    (@names_listed _ Nat Json.Value Json.Value _ _ ns e unbound).2 settings
  rw [given] at answer
  obtain rfl : ["", "z", "é", "\uffff"] = known := by
    rw [answer] at answered
    simpa using answered
  obtain ⟨known', answered', _, longer⟩ := others {} ns' e same unbound'
  exact ⟨⟨unbound, unbound', same⟩, answer, smallest, known', answered', longer (by decide)⟩

end TreeSpec
