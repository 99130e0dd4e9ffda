import Mathlib.Algebra.Order.Ring.Nat
import Mathlib.Order.Lattice.Nat
import TreeSpec.Proofs.Selection

/-!
# Taking a sequence apart

Slices that meet at a bound fit together: what one of them leaves out from its stop on, the other
starts with, wherever the bound lies, also past the end of the sequence or of all sizes. Slices with
the same step and all the starts below it share out the positions among them, and dealing their
elements out in turn gives the sequence back (`roundRobin_shares`). `slices_partition` says so of
the texts of references.
-/

namespace TreeSpec

open Text Reference

/-! ### Dealing out -/

/-- The first elements of all lists, then the second ones, and so on to the end of the longest. -/
def roundRobin (xss : List (List α)) : List α :=
  (List.range ((xss.map List.length).foldr max 0)).flatMap fun k => xss.filterMap (·[k]?)

theorem length_le_longest {xss : List (List α)} {xs : List α} (h : xs ∈ xss) :
    xs.length ≤ (xss.map List.length).foldr max 0 := by
  induction xss with
  | nil => cases h
  | cons ys xss ih =>
    rw [List.map_cons, List.foldr_cons]
    rcases List.mem_cons.1 h with rfl | later
    · exact Nat.le_max_left _ _
    · exact Nat.le_trans (ih later) (Nat.le_max_right _ _)

theorem sum_ranks_below (n ranks : Nat) :
    ((List.range ranks).map fun k => if k < n then 1 else 0).sum = min ranks n := by
  induction ranks with
  | zero => simp
  | succ ranks ih =>
    rw [List.range_succ, List.map_append, List.sum_append, ih]
    simp only [List.map_cons, List.map_nil, List.sum_singleton]
    split <;> omega

/-- Counting elements rank by rank comes to the same as counting them list by list. -/
theorem sum_length_ranks {xss : List (List α)} {ranks : Nat}
    (h : ∀ xs ∈ xss, xs.length ≤ ranks) :
    ((List.range ranks).map fun k => (xss.filterMap (·[k]?)).length).sum =
      (xss.map List.length).sum := by
  induction xss with
  | nil => simp
  | cons xs xss ih =>
    have rest := ih fun ys hy => h ys (List.mem_cons_of_mem xs hy)
    have first : min ranks xs.length = xs.length := Nat.min_eq_right (h xs List.mem_cons_self)
    have rank (k : Nat) : ((xs :: xss).filterMap (·[k]?)).length =
        (if k < xs.length then 1 else 0) + (xss.filterMap (·[k]?)).length := by
      by_cases hk : k < xs.length
      · have found : xs[k]? = some xs[k] := List.getElem?_eq_getElem hk
        rw [List.filterMap_cons_some (f := (·[k]?)) found, List.length_cons, if_pos hk,
          Nat.add_comm]
      · have ended : xs[k]? = none := List.getElem?_eq_none (Nat.not_lt.1 hk)
        rw [List.filterMap_cons_none (f := (·[k]?)) ended, if_neg hk, Nat.zero_add]
    simp only [rank]
    rw [List.sum_map_add, sum_ranks_below, first, rest, List.map_cons, List.sum_cons]

/-- Dealing out neither loses an element nor adds one. -/
theorem length_roundRobin (xss : List (List α)) :
    (roundRobin xss).length = (xss.map List.length).sum := by
  rw [roundRobin, List.length_flatMap]
  exact sum_length_ranks fun _ => length_le_longest

theorem filterMap_range_getElem? (xs : List α) (n : Nat) :
    (List.range n).filterMap (xs[·]?) = xs.take n := by
  induction n with
  | zero => rfl
  | succ n ih =>
    rw [List.range_succ, List.filterMap_append, ih, List.take_add_one]
    rfl

/-- Chunks of one width, one after the other, make up a sequence. -/
theorem flatMap_chunks (xs : List α) (width chunks : Nat) :
    (List.range chunks).flatMap (fun k => (xs.drop (k * width)).take width) =
      xs.take (chunks * width) := by
  induction chunks with
  | zero => simp
  | succ chunks ih =>
    rw [List.range_succ, List.flatMap_append, ih, Nat.succ_mul, List.take_add,
      List.flatMap_singleton]

section
variable {xs : List α} {c : Nat} {share : Nat → List α}

/-- If each share has the elements at every `c`-th position from its number on, then dealing out the
shares gives the sequence back. -/
theorem roundRobin_shares (hc : 0 < c) (h : ∀ r < c, ∀ k, (share r)[k]? = xs[r + k * c]?) :
    roundRobin ((List.range c).map share) = xs := by
  have round (k : Nat) :
      ((List.range c).map share).filterMap (·[k]?) = (xs.drop (k * c)).take c := by
    rw [List.filterMap_map, ← filterMap_range_getElem?]
    apply List.filterMap_congr
    intro r hr
    rw [Function.comp_apply, h r (List.mem_range.1 hr), List.getElem?_drop, Nat.add_comm]
  simp only [roundRobin, round]
  rw [flatMap_chunks]
  apply List.take_of_length_le
  -- otherwise the first share has an element of a rank that no share reaches
  by_contra left
  have place := h 0 hc (((List.range c).map share).map List.length |>.foldr max 0)
  have ended := length_le_longest (List.mem_map_of_mem (f := share) (List.mem_range.2 hc))
  rw [List.getElem?_eq_none ended, eq_comm, List.getElem?_eq_none_iff] at place
  omega

theorem sum_length_shares (hc : 0 < c) (h : ∀ r < c, ∀ k, (share r)[k]? = xs[r + k * c]?) :
    ((List.range c).map fun r => (share r).length).sum = xs.length := by
  have dealt := length_roundRobin ((List.range c).map share)
  rw [roundRobin_shares hc h, List.map_map] at dealt
  exact dealt.symm

end

/-- Each position is reached from one of the first `c` positions in steps of `c`. -/
theorem existsUnique_start {c : Nat} (hc : 0 < c) (p : Nat) :
    ∃! r, r < c ∧ r ≤ p ∧ c ∣ p - r := by
  refine ⟨p % c, ⟨Nat.mod_lt p hc, Nat.mod_le p c, Nat.dvd_sub_mod p⟩, ?_⟩
  rintro r ⟨small, reached, k, steps⟩
  have place : p = r + c * k := by omega
  rw [place, Nat.add_mul_mod_self_left, Nat.mod_eq_of_lt small]

/-! ### Texts of slices -/

/-- A text resolves to a name with some elements selected. -/
def Selects [Cluster γ α] (settings : Settings) (ns : Namespace γ) (text : String)
    (name : List Char) (selection : List α) : Prop :=
  (settings.resolve text ns).answer = .ok ⟨String.ofList name, selection⟩

section
variable [Cluster γ α] (settings : Settings) {ns : Namespace γ} {name start stop : List Char}
  {value : γ} {xs : List α}

theorem selects_part (word : IsName name) (first : IsBound start) (past : IsBound stop)
    (bound : ns.lookup (String.ofList name) = some value)
    (elements : Cluster.elements? value = some xs) (fits : xs.length ≤ Size.largest) :
    Selects settings ns (sliceText name start stop none) name
      ((xs.take (numberOr stop xs.length)).drop (numberOr start 0)) := by
  have spelled : Spells (sliceText name start stop none).toList
      ⟨name, some (.slice start stop none)⟩ := by
    rw [sliceText, String.toList_ofList]
    exact .slice word first past
  have nonzero : ¬ Reference.ZeroStep ⟨name, some (.slice start stop none)⟩ := by
    rintro ⟨_, _, _, ⟨⟩, _⟩
  obtain ⟨e, meaning, -, answer⟩ := resolve_of_spells settings spelled nonzero bound elements
  have selection : (e.bounds (Size.clamp xs.length)).select xs =
      (xs.take (numberOr stop xs.length)).drop (numberOr start 0) := by
    apply List.ext_getElem?
    intro k
    rw [getElem?_selection meaning fits, List.getElem?_drop, List.getElem?_take]
    change (if numberOr start 0 + k * 1 < numberOr stop xs.length then
      xs[numberOr start 0 + k * 1]? else none) = _
    rw [Nat.mul_one]
  rw [Selects, answer, selection]

/-- The part up to a bound and the part from it on. -/
theorem part_append_rest (k : Nat) :
    (xs.take k).drop 0 ++ (xs.take xs.length).drop k = xs := by
  rw [List.drop_zero, List.take_length, List.take_append_drop]

theorem part_append_part {i j k : Nat} (hij : i ≤ j) (hjk : j ≤ k) :
    (xs.take j).drop i ++ (xs.take k).drop j = (xs.take k).drop i := by
  have front : (xs.take j).drop i = ((xs.take k).drop i).take (j - i) := by
    rw [← List.drop_take, List.take_take, Nat.min_eq_left hjk]
  have back : (xs.take k).drop j = ((xs.take k).drop i).drop (j - i) := by
    rw [List.drop_drop, Nat.add_sub_cancel' hij]
  rw [front, back, List.take_append_drop]

theorem exists_share {step : List Char} {r c : Nat} (word : IsName name) (start_r : Writes start r)
    (step_c : Writes step c) (hc : 0 < c) (bound : ns.lookup (String.ofList name) = some value)
    (elements : Cluster.elements? value = some xs) (fits : xs.length ≤ Size.largest) :
    ∃ e, Expression.parse (sliceText name start [] (some step)) = .ok e ∧
      Selects settings ns (sliceText name start [] (some step)) name
        ((e.bounds (Size.clamp xs.length)).select xs) ∧
      (∀ k, ((e.bounds (Size.clamp xs.length)).select xs)[k]? = xs[r + k * c]?) ∧
      ∀ p, p ∈ (e.bounds (Size.clamp xs.length)).positions xs.length ↔
        p < xs.length ∧ r ≤ p ∧ c ∣ p - r := by
  let reference : Reference := ⟨name, some (.slice start [] (some step))⟩
  have spelled : Spells (sliceText name start [] (some step)).toList reference := by
    rw [sliceText, String.toList_ofList]
    exact .stepped word (.inr start_r.1) (.inl rfl) (.inr step_c.1)
  have nonzero : ¬ reference.ZeroStep := by
    rintro ⟨_, _, _, ⟨⟩, _, zeros⟩
    have zero := (digitsValue_eq_zero_iff step_c.1.2).2 zeros
    rw [step_c.2] at zero
    omega
  have first : reference.first = r := start_r.numberOr 0
  have past : reference.past xs.length = xs.length := rfl
  have stride : reference.stride = c := step_c.numberOr 1
  obtain ⟨e, meaning, parsed, answer⟩ := resolve_of_spells settings spelled nonzero bound elements
  refine ⟨e, parsed, answer, fun k => ?_, fun p => ?_⟩
  · rw [getElem?_selection meaning fits, first, past, stride]
    split
    · rfl
    · rw [List.getElem?_eq_none (by omega)]
  · rw [mem_positions_of_reference meaning fits, first, past, stride]
    tauto

end

/-- **Partition.** The slice up to a number and the slice from this number on make up the sequence,
and slices between three numbers in ascending order make up the slice from the first to the last of
them. The slices with a step and all starts below it have each position between them, in just one of
them; so their lengths add up, and dealing their elements out in turn gives the sequence back. All
numbers may be written in any of their spellings and be larger than any size. -/
theorem slices_partition [Cluster γ α] (settings : Settings) (ns : Namespace γ)
    {name : List Char} {value : γ} {xs : List α} (word : IsName name)
    (bound : ns.lookup (String.ofList name) = some value)
    (elements : Cluster.elements? value = some xs) (fits : xs.length ≤ Size.largest) :
    (∀ k stop start, Writes stop k → Writes start k →
      ∃ front back, Selects settings ns (sliceText name [] stop none) name front ∧
        Selects settings ns (sliceText name start [] none) name back ∧ front ++ back = xs) ∧
    (∀ i j k, i ≤ j → j ≤ k → ∀ first first' middle middle' last last',
      Writes first i → Writes first' i → Writes middle j → Writes middle' j →
      Writes last k → Writes last' k →
      ∃ front back whole, Selects settings ns (sliceText name first middle none) name front ∧
        Selects settings ns (sliceText name middle' last none) name back ∧
        Selects settings ns (sliceText name first' last' none) name whole ∧
        front ++ back = whole) ∧
    (∀ c, 0 < c → ∀ starts steps : Nat → List Char,
      (∀ r < c, Writes (starts r) r ∧ Writes (steps r) c) →
      ∃ range : Nat → Range,
        (∀ r < c, ∃ e, Expression.parse (sliceText name (starts r) [] (some (steps r))) = .ok e ∧
          e.bounds (Size.clamp xs.length) = range r ∧
          Selects settings ns (sliceText name (starts r) [] (some (steps r))) name
            ((range r).select xs)) ∧
        (∀ p < xs.length, ∃! r, r < c ∧ p ∈ (range r).positions xs.length) ∧
        ((List.range c).map fun r => ((range r).select xs).length).sum = xs.length ∧
        roundRobin ((List.range c).map fun r => (range r).select xs) = xs) := by
  have part {start stop} (hs : IsBound start) (ht : IsBound stop) :=
    selects_part settings word hs ht bound elements fits
  refine ⟨?_, ?_, ?_⟩
  · intro k stop start stop_k start_k
    have front := part (.inl rfl) (.inr stop_k.1)
    have back := part (.inr start_k.1) (.inl rfl)
    rw [stop_k.numberOr] at front
    rw [start_k.numberOr] at back
    exact ⟨_, _, front, back, part_append_rest k⟩
  · intro i j k hij hjk first first' middle middle' last last' first_i first_i' middle_j middle_j'
      last_k last_k'
    have front := part (.inr first_i.1) (.inr middle_j.1)
    have back := part (.inr middle_j'.1) (.inr last_k.1)
    have whole := part (.inr first_i'.1) (.inr last_k'.1)
    rw [first_i.numberOr, middle_j.numberOr] at front
    rw [middle_j'.numberOr, last_k.numberOr] at back
    rw [first_i'.numberOr, last_k'.numberOr] at whole
    exact ⟨_, _, _, front, back, whole, part_append_part hij hjk⟩
  · intro c hc starts steps written
    have shares (r : Nat) (hr : r < c) := exists_share settings word (written r hr).1
      (written r hr).2 hc bound elements fits
    have : Nonempty Expression := ⟨⟨"", .all⟩⟩
    choose! e parsed selected ranks positions using shares
    refine ⟨fun r => (e r).bounds (Size.clamp xs.length), ?_, ?_, ?_, ?_⟩
    · exact fun r hr => ⟨e r, parsed r hr, rfl, selected r hr⟩
    · intro p hp
      obtain ⟨r, start, only⟩ := existsUnique_start hc p
      refine ⟨r, ⟨start.1, (positions r start.1 p).2 ⟨hp, start.2⟩⟩, ?_⟩
      rintro r' ⟨hr, found⟩
      exact only r' ⟨hr, ((positions r' hr p).1 found).2⟩
    · exact sum_length_shares hc ranks
    · exact roundRobin_shares hc ranks

/-- Five elements, cut in one place, cut at a number of twenty digits, and shared out in seven. -/
theorem slices_partition_oversized :
    let xs := [10, 20, 30, 40, 50]
    let ns : Namespace (List Nat) := Namespace.empty.bind "a" xs
    (IsName ['a'] ∧ ns.lookup "a" = some xs ∧ xs.length ≤ Size.largest) ∧
      (∃ front back, Selects {} ns "a[:02]" ['a'] front ∧ Selects {} ns "a[2:]" ['a'] back ∧
        front ++ back = xs) ∧
      (∃ front back whole, Selects {} ns "a[1:3]" ['a'] front ∧
        Selects {} ns "a[3:99999999999999999999]" ['a'] back ∧
        Selects {} ns "a[001:99999999999999999999]" ['a'] whole ∧ front ++ back = whole) ∧
      ∃ range : Nat → Range, Selects {} ns "a[6::7]" ['a'] ((range 6).select xs) ∧
        ((List.range 7).map fun r => ((range r).select xs).length).sum = 5 ∧
        roundRobin ((List.range 7).map fun r => (range r).select xs) = xs := by
  intro xs ns
  have word : IsName ['a'] := by decide
  have bound : ns.lookup "a" = some xs := by decide
  have fits : xs.length ≤ Size.largest := by decide
  obtain ⟨cut, seam, shared⟩ := slices_partition {} ns word bound rfl fits
  have large : Writes "99999999999999999999".toList 99999999999999999999 := by decide
  refine ⟨⟨word, bound, fits⟩, ?_, ?_, ?_⟩
  · exact cut 2 ['0', '2'] ['2'] (by decide) (by decide)
  · have parts := seam 1 3 99999999999999999999 (by decide) (by decide) ['1'] ['0', '0', '1'] ['3']
      ['3'] _ _ (by decide) (by decide) (by decide) (by decide) large large
    exact parts
  · obtain ⟨range, selected, -, counted, dealt⟩ := shared 7 (by decide) decimal (fun _ => ['7'])
      fun r _ => ⟨⟨isRun_decimal r, digitsValue_decimal r⟩, by decide⟩
    obtain ⟨e, -, -, last⟩ := selected 6 (by decide)
    exact ⟨range, last, counted, dealt⟩

end TreeSpec
