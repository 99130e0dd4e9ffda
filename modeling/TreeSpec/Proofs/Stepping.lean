import Mathlib.Algebra.Order.Floor.Div
import TreeSpec.Cluster
import TreeSpec.Proofs.Positions
import TreeSpec.Stretch

/-!
# Walks through ranges

A walk visits the positions of its range, in their order and each once (`walk_eq_positions`): it
stops at the first sum that is no size, so it never comes back to a position.
`positions_enumerated` says what the positions are, how many there are and that each of them has an
element, in lists as in queues.
-/

namespace TreeSpec

namespace Stretch

variable {s rest : Stretch} {skip gap p : Size}

theorem skip?_eq_none_iff :
    s.skip? skip = none ↔ s.stop.toNat ≤ s.next.toNat + skip.toNat := by
  constructor
  · intro h
    by_contra reached
    have fits := Size.toNat_le s.stop
    have sum : (Size.clamp (s.next.toNat + skip.toNat)).toNat = s.next.toNat + skip.toNat := by
      rw [Size.toNat_clamp]
      omega
    have found := skip?_eq_some_iff.2 ⟨sum, UInt64.lt_iff_toNat_lt.2 (by omega), rfl⟩
    rw [h] at found
    cases found
  · intro h
    rw [Option.eq_none_iff_forall_ne_some]
    rintro ⟨p, rest⟩ found
    obtain ⟨sum, below, _⟩ := skip?_eq_some_iff.1 found
    have := UInt64.lt_iff_toNat_lt.1 below
    omega

/-- Steps from a number on lead to the number itself, or go on from one step further. -/
theorem dvd_sub_iff_next {c : Nat} (hc : 0 < c) (first i : Nat) :
    first ≤ i ∧ c ∣ i - first ↔ i = first ∨ first + c ≤ i ∧ c ∣ i - (first + c) := by
  constructor
  · rintro ⟨reached, k, hk⟩
    cases k with
    | zero =>
      left
      omega
    | succ k =>
      right
      rw [Nat.mul_succ] at hk
      refine ⟨by omega, k, by omega⟩
  · rintro (rfl | ⟨reached, k, hk⟩)
    · exact ⟨Nat.le_refl i, by rw [Nat.sub_self]; exact Nat.dvd_zero c⟩
    · refine ⟨by omega, k + 1, ?_⟩
      rw [Nat.mul_succ]
      omega

/-- A walk visits, from its first position on, the positions of the stretch at distances of one
more than the gap. -/
theorem mem_walk_iff (i : Size) :
    i ∈ s.walk skip gap ↔
      s.next.toNat + skip.toNat ≤ i.toNat ∧ i.toNat < s.stop.toNat ∧
        gap.toNat + 1 ∣ i.toNat - (s.next.toNat + skip.toNat) := by
  fun_induction walk s skip gap with
  | case1 s skip ended =>
    have past := skip?_eq_none_iff.1 ended
    simp only [List.not_mem_nil, false_iff]
    omega
  | case2 s skip p rest found ih =>
    obtain ⟨sum, below, rfl⟩ := skip?_eq_some_iff.1 found
    have inside := UInt64.lt_iff_toNat_lt.1 below
    have further := dvd_sub_iff_next (Nat.succ_pos gap.toNat) p.toNat i.toNat
    rw [List.mem_cons, ih, toNat_succ below, ← sum, ← UInt64.toNat_inj]
    -- what is left starts one behind `p`, so that passing over the gap goes on by a whole step
    have again : p.toNat + 1 + gap.toNat = p.toNat + (gap.toNat + 1) := by omega
    rw [again]
    constructor
    · rintro (same | ⟨reached, hi, steps⟩)
      · exact ⟨by omega, by omega, (further.2 (.inl same)).2⟩
      · exact ⟨by omega, hi, (further.2 (.inr ⟨reached, steps⟩)).2⟩
    · rintro ⟨reached, hi, steps⟩
      exact (further.1 ⟨reached, steps⟩).imp_right fun next => ⟨next.1, hi, next.2⟩

theorem walk_ascending : (s.walk skip gap).Pairwise (· < ·) := by
  fun_induction walk s skip gap with
  | case1 => exact .nil
  | case2 s skip p rest found ih =>
    obtain ⟨_, below, rfl⟩ := skip?_eq_some_iff.1 found
    refine List.pairwise_cons.2 ⟨fun i visited => ?_, ih⟩
    have behind := ((mem_walk_iff i).1 visited).1
    rw [toNat_succ below] at behind
    exact UInt64.lt_iff_toNat_lt.2 (by omega)

end Stretch

namespace Range

theorem toNat_min (a b : Size) : (min a b).toNat = min a.toNat b.toNat := by
  change (if a ≤ b then a else b).toNat = _
  split
  · rename_i h
    exact (Nat.min_eq_left (UInt64.le_iff_toNat_le.1 h)).symm
  · rename_i h
    have : ¬ a.toNat ≤ b.toNat := fun le => h (UInt64.le_iff_toNat_le.2 le)
    omega

theorem toNat_max (a b : Size) : (max a b).toNat = max a.toNat b.toNat := by
  change (if a ≤ b then b else a).toNat = _
  split
  · rename_i h
    exact (Nat.max_eq_right (UInt64.le_iff_toNat_le.1 h)).symm
  · rename_i h
    have : ¬ a.toNat ≤ b.toNat := fun le => h (UInt64.le_iff_toNat_le.2 le)
    omega

theorem toNat_step_pred (s : Step) : (s.size - 1).toNat + 1 = s.size.toNat := by
  have positive := s.pos
  have one : (1 : Size) ≤ s.size := UInt64.le_iff_toNat_le.2 positive
  rw [UInt64.toNat_sub_of_le _ _ one, UInt64.toNat_one]
  omega

/-- Bringing the bounds into the sequence neither loses a position nor adds or shifts one. -/
theorem mem_walk_iff (r : Range) (length i : Size) :
    i ∈ r.walk length ↔ i.toNat ∈ r.positions length.toNat := by
  rw [walk, Stretch.mem_walk_iff, mem_positions_iff, toNat_step_pred, toNat_max, toNat_min,
    toNat_min, UInt64.toNat_zero, Nat.add_zero]
  -- a start past the end is brought down to it, which leaves nothing to visit
  by_cases past : length.toNat < r.start.toNat
  · constructor
    · rintro ⟨reached, below, _⟩
      omega
    · rintro ⟨reached, below, _⟩
      omega
  · rw [Nat.min_eq_left (Nat.not_lt.1 past)]
    apply and_congr_right
    intro reached
    apply and_congr_left
    intro _
    omega

/-- A walk in sizes alone visits just the positions of the range, in ascending order. -/
theorem walk_eq_positions (r : Range) (length : Size) :
    (r.walk length).map UInt64.toNat = r.positions length.toNat := by
  have ascending : ((r.walk length).map UInt64.toNat).Pairwise (· < ·) := by
    rw [List.pairwise_map]
    exact Stretch.walk_ascending.imp UInt64.lt_iff_toNat_lt.1
  apply ascending.eq_of_mem_iff (r.positions_ascending length.toNat)
  intro i
  rw [List.mem_map]
  constructor
  · rintro ⟨p, visited, rfl⟩
    exact (mem_walk_iff r length p).1 visited
  · intro hi
    have small : i ≤ Size.largest :=
      Nat.le_of_lt (Nat.lt_of_lt_of_le (lt_of_mem_positions hi) (Size.toNat_le length))
    have same : (Size.clamp i).toNat = i := by
      rw [Size.toNat_clamp]
      exact Nat.min_eq_left small
    refine ⟨Size.clamp i, (mem_walk_iff r length _).2 ?_, same⟩
    rwa [same]

/-- What it is to list the positions of a range among `length`. -/
structure Lists (r : Range) (length : Nat) (positions : List Nat) : Prop where
  ascending : positions.Pairwise (· < ·)
  inside : ∀ i ∈ positions, i < length
  exact (i : Nat) : i ∈ positions ↔
    r.start.toNat ≤ i ∧ i < min r.stop.toNat length ∧ r.step.size.toNat ∣ i - r.start.toNat
  counted : positions.length =
    if r.start.toNat < min r.stop.toNat length then
      (min r.stop.toNat length - r.start.toNat) ⌈/⌉ r.step.size.toNat
    else 0
  spaced (k : Nat) (h : k < positions.length) :
    positions[k] = r.start.toNat + k * r.step.size.toNat

theorem count_eq (r : Range) (length : Nat) :
    r.count length = if r.start.toNat < min r.stop.toNat length then
      (min r.stop.toNat length - r.start.toNat) ⌈/⌉ r.step.size.toNat else 0 := by
  have positive := r.step.pos
  rw [count, limit, Nat.ceilDiv_eq_add_pred_div]
  split
  · rw [Nat.add_sub_assoc positive]
  · rename_i empty
    apply Nat.div_eq_of_lt
    omega

theorem positions_lists (r : Range) (length : Nat) : r.Lists length (r.positions length) where
  ascending := r.positions_ascending length
  inside _ := lt_of_mem_positions
  exact := r.mem_positions_iff length
  counted := by rw [positions, List.length_map, List.length_range, count_eq]
  spaced k h := by simp [positions, position]

theorem length_select (r : Range) (xs : List α) :
    (r.select xs).length = (r.positions xs.length).length := by
  simpa using congrArg List.length (r.select_elements xs)

/-- **Positions.** The positions of a range are an arithmetic progression: they ascend from the
start by the step, all lie below the stop and the length, and none that does is left out. Going
through them in sizes alone gives the same positions, however close the bounds and the step are to
the largest size. Each position has an element, both in a list and in the two parts of a queue, and
the selection has one element for each of them. -/
theorem positions_enumerated (r : Range) :
    (∀ length, r.Lists length (r.positions length)) ∧
    (∀ length : Size, (r.walk length).map UInt64.toNat = r.positions length.toNat) ∧
    (∀ xs : List α, (r.select xs).map some = (r.positions xs.length).map (xs[·]?) ∧
      (r.select xs).length = (r.positions xs.length).length) ∧
    (∀ q : Deque α, ∃ selection, Cluster.slice? q r = some selection ∧
      selection.map some = (r.positions q.length).map q.get? ∧
      selection.length = (r.positions q.length).length) := by
  refine ⟨r.positions_lists, r.walk_eq_positions,
    fun xs => ⟨r.select_elements xs, r.length_select xs⟩, fun q => ?_⟩
  have elements := r.select_elements q.toList
  have size := r.length_select q.toList
  simp only [Deque.length_toList, Deque.getElem?_toList] at elements size
  exact ⟨r.select q.toList, rfl, elements, size⟩

end Range

end TreeSpec
