import TreeSpec.Proofs.Selection

/-!
# Appending to a sequence

The elements of a sequence keep their positions when others are appended. So what an expression
selects stays selected, although a missing stop moves on with the length: the positions that it
selects in the longer sequence are the old ones and, behind them, some of the new ones
(`positions_append`). They go on in the step that the old ones have, from the same start, wherever
the old sequence ends. `appending_extends_selection` says so of two resolutions.
-/

namespace TreeSpec

open Text Reference

namespace Reference

/-- The reference gives an index below `n`, or a stop that is not greater than `n`. -/
def StopsBy (r : Reference) (n : Nat) : Prop :=
  match r.subscript with
  | none => False
  | some (.index run) => digitsValue run < n
  | some (.slice _ stop _) => stop ≠ [] ∧ digitsValue stop ≤ n

/-- The stop of a reference is given, or it is the length; so in a longer sequence it lies beyond
the same positions of the shorter one. -/
theorem lt_past_iff (r : Reference) {n m i : Nat} (longer : n ≤ m) (h : i < n) :
    i < r.past n ↔ i < r.past m := by
  obtain ⟨name, subscript⟩ := r
  cases subscript with
  | none =>
    simp only [past]
    omega
  | some s =>
    cases s with
    | index run => exact Iff.rfl
    | slice start stop step =>
      simp only [past, numberOr]
      split
      · omega
      · exact Iff.rfl

theorem past_le_of_stopsBy {r : Reference} {n : Nat} (h : r.StopsBy n) (length : Nat) :
    r.past length ≤ n := by
  obtain ⟨name, subscript⟩ := r
  cases subscript with
  | none => exact h.elim
  | some s =>
    cases s with
    | index run => exact h
    | slice start stop step =>
      obtain ⟨given, small⟩ := h
      simp only [past, numberOr, if_neg given]
      exact small

end Reference

theorem eq_append_filter {ps qs : List Nat} {n : Nat} (hp : ps.Pairwise (· < ·))
    (hq : qs.Pairwise (· < ·)) (h : ∀ i, i ∈ qs ↔ i < n ∧ i ∈ ps) :
    ps = qs ++ ps.filter (n ≤ ·) := by
  have joined : (qs ++ ps.filter (n ≤ ·)).Pairwise (· < ·) := by
    refine List.pairwise_append.2 ⟨hq, hp.filter _, ?_⟩
    intro i hi j hj
    have below := ((h i).1 hi).1
    have above := of_decide_eq_true (List.mem_filter.1 hj).2
    omega
  -- ascending lists with the same members are the same
  apply hp.eq_of_mem_iff joined
  intro i
  rw [List.mem_append, h, List.mem_filter, decide_eq_true_eq]
  by_cases below : i < n
  · simp [below]
  · simp [below, Nat.not_lt.1 below]

section
variable {r : Reference} {e : Expression} (meaning : Expression.ofReference? r = some e)
include meaning

theorem mem_positions_iff_of_le {n m : Nat} (longer : n ≤ m) (fits : m ≤ Size.largest) (i : Nat) :
    i ∈ (e.bounds (Size.clamp n)).positions n ↔
      i < n ∧ i ∈ (e.bounds (Size.clamp m)).positions m := by
  rw [mem_positions_of_reference meaning (longer.trans fits),
    mem_positions_of_reference meaning fits]
  apply and_congr_right
  intro below
  rw [r.lt_past_iff longer below, and_iff_right (Nat.lt_of_lt_of_le below longer)]

/-- The positions in a longer sequence are those in the shorter one, and then others behind its
end. -/
theorem positions_append {n m : Nat} (longer : n ≤ m) (fits : m ≤ Size.largest) :
    (e.bounds (Size.clamp m)).positions m =
      (e.bounds (Size.clamp n)).positions n ++
        ((e.bounds (Size.clamp m)).positions m).filter (n ≤ ·) :=
  eq_append_filter (Range.positions_ascending _ m) (Range.positions_ascending _ n)
    (mem_positions_iff_of_le meaning longer fits)

/-- The selection from a longer sequence is the one from the shorter sequence, and then elements
that have been appended. -/
theorem select_append {xs ys : List α} (fits : (xs ++ ys).length ≤ Size.largest) :
    (e.bounds (Size.clamp (xs ++ ys).length)).select (xs ++ ys) =
      (e.bounds (Size.clamp xs.length)).select xs ++
        (((e.bounds (Size.clamp (xs ++ ys).length)).positions (xs ++ ys).length).filter
          (xs.length ≤ ·)).filterMap fun p => ys[p - xs.length]? := by
  have longer : xs.length ≤ (xs ++ ys).length := by
    rw [List.length_append]
    exact Nat.le_add_right _ _
  rw [Range.select_eq, Range.select_eq]
  conv_lhs => rw [positions_append meaning longer fits]
  rw [List.filterMap_append]
  congr 1
  · apply List.filterMap_congr
    intro p hp
    exact List.getElem?_append_left (Range.lt_of_mem_positions hp)
  · apply List.filterMap_congr
    intro p hp
    exact List.getElem?_append_right (of_decide_eq_true (List.mem_filter.1 hp).2)

end

/-- **Appending.** If the name of a reference is bound to a sequence in one namespace and to a
longer one that starts with it in another, then the second selection starts with the first. Its
other elements are appended ones, at ascending positions that the numbers written in the reference
describe in the longer sequence. There are none if the reference gives an index in the shorter
sequence, or a stop up to its end. -/
theorem appending_extends_selection [Cluster γ α] [Cluster δ α] (settings settings' : Settings)
    (ns : Namespace γ) (ns' : Namespace δ) {t : String} {e : Expression} {value : γ} {value' : δ}
    {xs ys : List α} (parsed : Expression.parse t = .ok e)
    (bound : ns.lookup e.name = some value) (elements : Cluster.elements? value = some xs)
    (bound' : ns'.lookup e.name = some value')
    (elements' : Cluster.elements? value' = some (xs ++ ys))
    (fits : (xs ++ ys).length ≤ Size.largest) :
    ∃ (r : Reference) (selection more : List α) (later : List Nat), Spells t.toList r ∧
      (settings.resolve t ns).answer = .ok ⟨e.name, selection⟩ ∧
      (settings'.resolve t ns').answer = .ok ⟨e.name, selection ++ more⟩ ∧
      more.map some = later.map (fun p => ys[p - xs.length]?) ∧
      later.Pairwise (· < ·) ∧
      (∀ p, p ∈ later ↔ xs.length ≤ p ∧ p < (xs ++ ys).length ∧ r.first ≤ p ∧
        p < r.past (xs ++ ys).length ∧ r.stride ∣ p - r.first) ∧
      (r.StopsBy xs.length → more = []) := by
  obtain ⟨r, spelled, meaning⟩ := Expression.parse_eq_ok_iff.1 parsed
  let range := e.bounds (Size.clamp (xs ++ ys).length)
  let later := (range.positions (xs ++ ys).length).filter (xs.length ≤ ·)
  have places (p : Nat) : p ∈ later ↔ xs.length ≤ p ∧ p < (xs ++ ys).length ∧ r.first ≤ p ∧
      p < r.past (xs ++ ys).length ∧ r.stride ∣ p - r.first := by
    rw [List.mem_filter, decide_eq_true_eq, and_comm, mem_positions_of_reference meaning fits]
  have longer := resolve_of_bound settings' parsed bound' elements'
  rw [select_append meaning fits] at longer
  refine ⟨r, _, _, later, spelled, resolve_of_bound settings parsed bound elements, longer, ?_,
    (range.positions_ascending _).filter _, places, ?_⟩
  · apply Range.map_some_filterMap
    intro p hp
    obtain ⟨behind, inside, -⟩ := (places p).1 hp
    rw [List.length_append] at inside
    have appended : p - xs.length < ys.length := by omega
    rw [List.getElem?_eq_getElem appended, Option.isSome_some]
  · intro stops
    have none : later = [] := by
      apply List.eq_nil_iff_forall_not_mem.2
      intro p hp
      have := (places p).1 hp
      have := past_le_of_stopsBy stops (xs ++ ys).length
      omega
    change later.filterMap _ = []
    rw [none, List.filterMap_nil]

/-- Every other element of three, and then of six, now in a queue: the step goes on across the end
of the three. -/
theorem appending_extends_selection_step :
    let xs := [10, 20, 30]
    let ys := [40, 50, 60]
    let e : Expression := ⟨"a", .slice none none (some ⟨2, by decide⟩)⟩
    let ns : Namespace (List Nat) := Namespace.empty.bind "a" xs
    let ns' : Namespace (Deque Nat) := Namespace.empty.bind "a" ⟨xs, ys.reverse⟩
    (Expression.parse "a[::02]" = .ok e ∧ (xs ++ ys).length ≤ Size.largest) ∧
      ∃ later : List Nat, (({} : Settings).resolve "a[::02]" ns).answer = .ok ⟨"a", [10, 30]⟩ ∧
        (({} : Settings).resolve "a[::02]" ns').answer = .ok ⟨"a", [10, 30] ++ [50]⟩ ∧
        [50].map some = later.map (fun p => ys[p - 3]?) ∧ ∀ p ∈ later, 3 ≤ p ∧ p < 6 := by
  intro xs ys e ns ns'
  have parsed : Expression.parse "a[::02]" = .ok e :=
    Expression.parse_eq_ok_iff.2 ⟨⟨['a'], some (.slice [] [] (some ['0', '2']))⟩,
      Reference.spells_of_parse? (by decide), by decide⟩
  have fits : (xs ++ ys).length ≤ Size.largest := by decide
  have bound : ns.lookup "a" = some xs := by decide
  have bound' : ns'.lookup "a" = some ⟨xs, ys.reverse⟩ := rfl
  have selected : (e.bounds (Size.clamp 3)).select xs = [10, 30] := by decide
  have selected' : (e.bounds (Size.clamp 6)).select (xs ++ ys) = [10, 30, 50] := by decide
  obtain ⟨r, selection, more, later, -, first, second, elements, -, places, -⟩ :=
    appending_extends_selection {} {} ns ns' parsed bound rfl bound' rfl fits
  have computed := resolve_of_bound {} parsed bound rfl
  have computed' := resolve_of_bound {} parsed bound' rfl
  rw [first] at computed
  rw [second] at computed'
  obtain rfl : selection = [10, 30] :=
    (congrArg Resolution.selection (Except.ok.inj computed)).trans selected
  have split : [10, 30] ++ more = [10, 30] ++ [50] :=
    (congrArg Resolution.selection (Except.ok.inj computed')).trans selected'
  obtain rfl : more = [50] := List.append_cancel_left split
  refine ⟨⟨parsed, fits⟩, later, first, second, elements, fun p hp => ?_⟩
  have place := (places p).1 hp
  exact ⟨place.1, place.2.1⟩

end TreeSpec
