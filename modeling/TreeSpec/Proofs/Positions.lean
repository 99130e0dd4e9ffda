import Mathlib.Data.List.Sort
import TreeSpec.Range

/-!
# Positions of a range

The positions that a range selects are an arithmetic progression cut off at the stop and at
the length of the sequence: `mem_positions_iff` says which they are, `positions_ascending` in
which order they come. All of them lie in the sequence, so no element is missing from what is
selected (`select_elements`), and the element of each rank is known (`getElem?_select`).
-/

namespace TreeSpec.Range

/-- The rounded-up quotient counts the multiples below a number. -/
theorem lt_ceil_div_iff {k m c : Nat} (hc : 0 < c) : k < (m + (c - 1)) / c ↔ k * c < m := by
  rw [← Nat.succ_le_iff, Nat.le_div_iff_mul_le hc, Nat.succ_mul]
  omega

theorem lt_count_iff (r : Range) (length k : Nat) :
    k < r.count length ↔ r.position k < min r.stop.toNat length := by
  rw [count, lt_ceil_div_iff r.step.pos, position, limit]
  omega

theorem position_strictMono (r : Range) {j k : Nat} (h : j < k) : r.position j < r.position k := by
  have := Nat.mul_lt_mul_of_pos_right h r.step.pos
  simp only [position]
  omega

theorem positions_ascending (r : Range) (length : Nat) :
    (r.positions length).Pairwise (· < ·) := by
  rw [positions, List.pairwise_map]
  exact List.pairwise_lt_range.imp r.position_strictMono

theorem mem_positions_iff (r : Range) (length i : Nat) :
    i ∈ r.positions length ↔
      r.start.toNat ≤ i ∧ i < min r.stop.toNat length ∧ r.step.size.toNat ∣ i - r.start.toNat := by
  simp only [positions, List.mem_map, List.mem_range, lt_count_iff]
  constructor
  · rintro ⟨k, hk, rfl⟩
    refine ⟨Nat.le_add_right _ _, hk, k, ?_⟩
    rw [position, Nat.add_sub_cancel_left, Nat.mul_comm]
  · rintro ⟨lo, hi, k, hk⟩
    have reached : r.position k = i := by
      rw [position, Nat.mul_comm, ← hk]
      omega
    exact ⟨k, reached ▸ hi, reached⟩

theorem lt_of_mem_positions {r : Range} {length i : Nat} (h : i ∈ r.positions length) :
    i < length := by
  have := ((mem_positions_iff r length i).1 h).2.1
  omega

theorem map_some_filterMap {f : α → Option β} {xs : List α} (h : ∀ x ∈ xs, (f x).isSome) :
    (xs.filterMap f).map some = xs.map f := by
  induction xs with
  | nil => rfl
  | cons x xs ih =>
    obtain ⟨y, hy⟩ := Option.isSome_iff_exists.1 (h x List.mem_cons_self)
    rw [List.filterMap_cons_some hy, List.map_cons, List.map_cons, hy,
      ih fun z hz => h z (List.mem_cons_of_mem x hz)]

/-- The selected elements are those at the selected positions, one for each of them. -/
theorem select_elements (r : Range) (xs : List α) :
    (r.select xs).map some = (r.positions xs.length).map (xs[·]?) := by
  rw [select_eq]
  apply map_some_filterMap
  intro i hi
  simpa using lt_of_mem_positions hi

/-- The selected element of rank `k` is the one at the position of this rank, as long as that lies
before the stop. -/
theorem getElem?_select (r : Range) (xs : List α) (k : Nat) :
    (r.select xs)[k]? = if r.position k < r.stop.toNat then xs[r.position k]? else none := by
  have rank := congrArg (·[k]?) (r.select_elements xs)
  simp only [List.getElem?_map, positions] at rank
  by_cases hk : k < r.count xs.length
  · have inside := (r.lt_count_iff xs.length k).1 hk
    rw [List.getElem?_range hk] at rank
    obtain ⟨x, selected, found⟩ := Option.map_eq_some_iff.1 rank
    rw [if_pos (by omega), selected, found]
  · have outside := mt (r.lt_count_iff xs.length k).2 hk
    have last : (List.range (r.count xs.length))[k]? = none :=
      List.getElem?_eq_none (by simpa using hk)
    rw [last, Option.map_none, Option.map_none, Option.map_eq_none_iff] at rank
    rw [rank]
    split
    · rw [List.getElem?_eq_none (by omega)]
    · rfl

end TreeSpec.Range
