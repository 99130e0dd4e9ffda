import TreeSpec.Resolver
import TreeSpec.Proofs.Parsing
import TreeSpec.Proofs.Positions

/-!
# What a reference selects

The bounds of an expression are sizes, and a number that is too large for a size is cut off.
No sequence is long enough for that to show: a reference selects the elements that the numbers
written in it ask for, however many digits they have.
-/

namespace TreeSpec

open Text Reference

namespace Reference

/-- The number that a run denotes, or a default if there is no run. -/
def numberOr (run : List Char) (default : Nat) : Nat :=
  if run = [] then default else digitsValue run

/-- The first position that a reference asks for. -/
def first (r : Reference) : Nat :=
  match r.subscript with
  | none => 0
  | some (.index run) => digitsValue run
  | some (.slice start _ _) => numberOr start 0

/-- The position that a reference stops before in a sequence of `length` elements. -/
def past (r : Reference) (length : Nat) : Nat :=
  match r.subscript with
  | none => length
  | some (.index run) => digitsValue run + 1
  | some (.slice _ stop _) => numberOr stop length

/-- The distance between the positions that a reference asks for. -/
def stride (r : Reference) : Nat :=
  match r.subscript with
  | none => 1
  | some (.index _) => 1
  | some (.slice _ _ step) => numberOr (step.getD []) 1

end Reference

theorem Writes.numberOr {run : List Char} {n : Nat} (h : Writes run n) (default : Nat) :
    numberOr run default = n := by
  rw [Reference.numberOr, if_neg h.1.1, h.2]

namespace Expression

theorem toNat_bound?_getD (run : List Char) {default : Size} {n : Nat}
    (h : default.toNat = min n Size.largest) :
    ((bound? run).getD default).toNat = min (numberOr run n) Size.largest := by
  cases run with
  | nil => exact h
  | cons c run => exact Size.toNat_clamp _

theorem toNat_step?_getD {run : List Char} {step : Option Step} (h : step? run = some step) :
    (step.getD .one).size.toNat = min (numberOr run 1) Size.largest := by
  have written := toNat_step? h
  cases run with
  | nil =>
    cases step with
    | none => rfl
    | some p => cases written
  | cons c run =>
    cases step with
    | none => cases written
    | some p => exact Option.some.inj written

/-- The bounds of an expression are the numbers of its reference, each cut off at the largest
size. -/
theorem toNat_bounds {r : Reference} {e : Expression} (h : ofReference? r = some e)
    (length : Nat) :
    (e.bounds (Size.clamp length)).start.toNat = min r.first Size.largest ∧
      (e.bounds (Size.clamp length)).stop.toNat = min (r.past length) Size.largest ∧
      (e.bounds (Size.clamp length)).step.size.toNat = min r.stride Size.largest := by
  obtain ⟨name, subscript⟩ := r
  cases subscript with
  | none =>
    cases h
    exact ⟨rfl, Size.toNat_clamp length, rfl⟩
  | some s =>
    obtain ⟨s', hs, rfl⟩ := Option.map_eq_some_iff.1 h
    cases s with
    | index run =>
      cases hs
      refine ⟨Size.toNat_clamp _, ?_, rfl⟩
      -- the number is cut off twice: as it is read, and one further on
      simp only [bounds, stop, Option.getD_some, Size.toNat_clamp, past]
      omega
    | slice start stop step =>
      obtain ⟨p, hp, rfl⟩ := Option.map_eq_some_iff.1 hs
      exact ⟨toNat_bound?_getD start rfl, toNat_bound?_getD stop (Size.toNat_clamp length),
        toNat_step?_getD hp⟩

end Expression

/-- Cutting off a divisor cannot be seen in numbers that are no larger than the cut. -/
theorem min_dvd_iff {c m d : Nat} (h : d < m) : min c m ∣ d ↔ c ∣ d := by
  by_cases hc : c ≤ m
  · rw [Nat.min_eq_left hc]
  · rw [Nat.min_eq_right (by omega)]
    constructor
    · intro hd
      rw [Nat.eq_zero_of_dvd_of_lt hd h]
      exact Nat.dvd_zero c
    · intro hd
      rw [Nat.eq_zero_of_dvd_of_lt hd (by omega)]
      exact Nat.dvd_zero m

theorem mem_positions_of_reference {r : Reference} {e : Expression}
    (h : Expression.ofReference? r = some e) {length : Nat} (fits : length ≤ Size.largest)
    (i : Nat) :
    i ∈ (e.bounds (Size.clamp length)).positions length ↔
      i < length ∧ r.first ≤ i ∧ i < r.past length ∧ r.stride ∣ i - r.first := by
  obtain ⟨start, stop, step⟩ := Expression.toNat_bounds h length
  rw [Range.mem_positions_iff, start, stop, step]
  by_cases hi : i < length
  · have lo : min r.first Size.largest ≤ i ↔ r.first ≤ i := by omega
    have hi' : i < min (min (r.past length) Size.largest) length ↔ i < r.past length := by omega
    rw [lo, hi', and_iff_right hi]
    apply and_congr_right
    intro reached
    -- the start lies inside, so only the step may have been cut off
    have hs : min r.first Size.largest = r.first := by omega
    rw [hs, min_dvd_iff (by omega)]
  · constructor
    · rintro ⟨_, below, _⟩
      omega
    · rintro ⟨below, _⟩
      exact absurd below hi

/-- A start and a step that are cut off lead to the same position, or past the cut. -/
theorem cut_position {a c m k : Nat} (h : min a m + k * min c m < m ∨ a + k * c < m) :
    min a m + k * min c m = a + k * c := by
  cases k with
  | zero => omega
  | succ k =>
    have cut : min c m ≤ (k + 1) * min c m := Nat.le_mul_of_pos_left _ (Nat.succ_pos k)
    have uncut : c ≤ (k + 1) * c := Nat.le_mul_of_pos_left _ (Nat.succ_pos k)
    have fits : c ≤ m := by omega
    rw [Nat.min_eq_left fits] at h ⊢
    omega

/-- Bounds that are cut off lead to the same elements of a sequence that is no longer than the
cut. -/
theorem getElem?_cut {xs : List α} {m : Nat} (fits : xs.length ≤ m) (a b c k : Nat) :
    (if min a m + k * min c m < min b m then xs[min a m + k * min c m]? else none) =
      if a + k * c < b then xs[a + k * c]? else none := by
  by_cases short : min a m + k * min c m < m ∨ a + k * c < m
  · have same := cut_position short
    have before : a + k * c < min b m ↔ a + k * c < b := by omega
    simp only [same, before]
  · rw [List.getElem?_eq_none (by omega), List.getElem?_eq_none (by omega), ite_self, ite_self]

/-- The element of rank `k` that an expression selects is the one that its reference asks for. -/
theorem getElem?_selection {r : Reference} {e : Expression}
    (h : Expression.ofReference? r = some e) {xs : List α} (fits : xs.length ≤ Size.largest)
    (k : Nat) :
    ((e.bounds (Size.clamp xs.length)).select xs)[k]? =
      if r.first + k * r.stride < r.past xs.length then xs[r.first + k * r.stride]? else none := by
  obtain ⟨start, stop, step⟩ := Expression.toNat_bounds h xs.length
  rw [Range.getElem?_select, Range.position, start, stop, step, getElem?_cut fits]

section
variable [Cluster γ α] {ns : Namespace γ} {e : Expression} {value : γ} {xs : List α}

theorem resolveExpression_of_bound (settings : Settings) (bound : ns.lookup e.name = some value)
    (elements : Cluster.elements? value = some xs) :
    (settings.resolveExpression e ns).answer =
      .ok ⟨e.name, (e.bounds (Size.clamp xs.length)).select xs⟩ := by
  simp only [Settings.resolveExpression, bound, Cluster.length?_eq, Cluster.slice?_eq, elements,
    Option.map_some]

theorem resolve_of_parse (settings : Settings) {t : String} (h : Expression.parse t = .ok e) :
    (settings.resolve t ns).answer = (settings.resolveExpression e ns).answer := by
  simp only [Settings.resolve, h]

/-- What an expression resolves to depends on its name and its bounds alone. -/
theorem resolveExpression_congr (settings : Settings) {e' : Expression} (name : e.name = e'.name)
    (bounds : ∀ length, e.bounds length = e'.bounds length) :
    settings.resolveExpression e ns = settings.resolveExpression e' ns := by
  simp only [Settings.resolveExpression, name, bounds]

theorem resolve_of_bound (settings : Settings) {t : String} (parsed : Expression.parse t = .ok e)
    (bound : ns.lookup e.name = some value) (elements : Cluster.elements? value = some xs) :
    (settings.resolve t ns).answer =
      .ok ⟨e.name, (e.bounds (Size.clamp xs.length)).select xs⟩ := by
  rw [resolve_of_parse settings parsed, resolveExpression_of_bound settings bound elements]

/-- A text that spells a reference without a step of zero selects what the reference means. -/
theorem resolve_of_spells (settings : Settings) {t : String} {r : Reference}
    (spelled : Spells t.toList r) (nonzero : ¬ r.ZeroStep)
    (bound : ns.lookup (String.ofList r.name) = some value)
    (elements : Cluster.elements? value = some xs) :
    ∃ e, Expression.ofReference? r = some e ∧ Expression.parse t = .ok e ∧
      (settings.resolve t ns).answer =
        .ok ⟨String.ofList r.name, (e.bounds (Size.clamp xs.length)).select xs⟩ := by
  obtain ⟨e, meaning⟩ := Option.ne_none_iff_exists'.1
    (mt (Expression.ofReference?_eq_none_iff spelled).1 nonzero)
  have parsed : Expression.parse t = .ok e := Expression.parse_eq_ok_iff.2 ⟨r, spelled, meaning⟩
  have name : String.ofList r.name = e.name := by
    rw [← (Expression.means_of_ofReference? meaning).1, String.ofList_toList]
  rw [name] at bound ⊢
  exact ⟨e, meaning, parsed, resolve_of_bound settings parsed bound elements⟩

end

/-- What an index selects: one element, or none past the end. -/
theorem selection_of_index {selection xs : List α} {positions : List Nat} {k : Nat}
    (elements : selection.map some = positions.map (xs[·]?))
    (ascending : positions.Pairwise (· < ·)) (only : ∀ i, i ∈ positions ↔ i < xs.length ∧ i = k) :
    selection = xs[k]?.toList := by
  by_cases hk : k < xs.length
  · have single : positions = [k] := by
      apply ascending.eq_of_mem_iff (List.pairwise_singleton _ _)
      intro i
      rw [only, List.mem_singleton]
      omega
    rw [single, List.map_singleton, List.getElem?_eq_getElem hk] at elements
    rw [List.getElem?_eq_getElem hk, Option.toList_some]
    exact List.map_injective_iff.2 (Option.some_injective α) elements
  · have none : positions = [] := by
      apply List.eq_nil_iff_forall_not_mem.2
      intro i hi
      have := (only i).1 hi
      omega
    rw [none, List.map_nil, List.map_eq_nil_iff] at elements
    rw [elements, List.getElem?_eq_none (by omega), Option.toList_none]

/-- **Selections.** If the name of a reference is bound to a sequence, then the reference
selects, in ascending order, the elements at the positions that the numbers written in it
describe, whatever the settings are and however large the numbers. An index selects the one
element at its position, or none if the sequence is too short. -/
theorem resolve_selects_written [Cluster γ α] (settings : Settings) (ns : Namespace γ)
    {t : String} {r : Reference} {value : γ} {xs : List α} (spelled : Spells t.toList r)
    (nonzero : ¬ r.ZeroStep) (bound : ns.lookup (String.ofList r.name) = some value)
    (elements : Cluster.elements? value = some xs) (fits : xs.length ≤ Size.largest) :
    ∃ (resolution : Resolution α) (positions : List Nat),
      (settings.resolve t ns).answer = .ok resolution ∧
      resolution.name.toList = r.name ∧
      resolution.selection.map some = positions.map (xs[·]?) ∧
      positions.Pairwise (· < ·) ∧
      (∀ i, i ∈ positions ↔
        i < xs.length ∧ r.first ≤ i ∧ i < r.past xs.length ∧ r.stride ∣ i - r.first) ∧
      ∀ run, r.subscript = some (.index run) →
        resolution.selection = xs[digitsValue run]?.toList := by
  obtain ⟨e, meaning, -, answer⟩ := resolve_of_spells settings spelled nonzero bound elements
  let range := e.bounds (Size.clamp xs.length)
  have asked := mem_positions_of_reference meaning fits
  refine ⟨⟨String.ofList r.name, range.select xs⟩, range.positions xs.length, answer,
    String.toList_ofList, range.select_elements xs, range.positions_ascending xs.length, asked, ?_⟩
  intro run hr
  apply selection_of_index (range.select_elements xs) (range.positions_ascending xs.length)
  intro i
  rw [asked, first, past, stride, hr]
  simp only [Nat.one_dvd, and_true]
  omega

/-- A slice whose stop has twenty digits, beyond all sizes. -/
theorem resolve_selects_written_oversized :
    let stop := "99999999999999999999".toList
    let r : Reference := ⟨['a'], some (.slice ['0', '1'] stop (some ['2']))⟩
    let t := "a[01:99999999999999999999:2]"
    let ns : Namespace (List Nat) := Namespace.empty.bind "a" [10, 20, 30, 40, 50]
    (Spells t.toList r ∧ ¬ r.ZeroStep ∧
      ns.lookup (String.ofList r.name) = some [10, 20, 30, 40, 50]) ∧
    ∃ (resolution : Resolution Nat) (positions : List Nat),
      (({} : Settings).resolve t ns).answer = .ok resolution ∧
      resolution.name.toList = r.name ∧
      resolution.selection.map some = positions.map ([10, 20, 30, 40, 50][·]?) ∧
      positions.Pairwise (· < ·) ∧
      (∀ i, i ∈ positions ↔ i < 5 ∧ r.first ≤ i ∧ i < r.past 5 ∧ r.stride ∣ i - r.first) ∧
      ∀ run, r.subscript = some (.index run) →
        resolution.selection = [10, 20, 30, 40, 50][digitsValue run]?.toList := by
  intro stop r t ns
  have spelled : Spells t.toList r := spells_of_parse? (by decide)
  have nonzero : ¬ r.ZeroStep := by
    rintro ⟨_, _, _, written, _, zeros⟩
    cases written
    exact absurd (zeros '2' List.mem_cons_self) (by decide)
  have bound : ns.lookup (String.ofList r.name) = some [10, 20, 30, 40, 50] := by decide
  exact ⟨⟨spelled, nonzero, bound⟩,
    resolve_selects_written {} ns spelled nonzero bound rfl (by decide)⟩

end TreeSpec
