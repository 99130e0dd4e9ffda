import Mathlib.Tactic.Ring
import TreeSpec.Proofs.Rendering
import TreeSpec.Proofs.Selection

/-!
# Selecting from a selection

What a range selects may be selected from again. The positions of the second range are ranks in
the first one, so the two progressions make up one: its bounds are counted in the original
sequence, and its step is the product of both (`Range.select_select`). The bounds of this one range
may be too large for a size, but where they are cut off the sequence has ended. The same is true of
references, which can be replaced by one reference to the original (`reselection_is_one_slice`).
-/

namespace TreeSpec

/-- As many steps of one kind as the other step is wide, or the largest step if that is less. -/
def Step.times (a b : Step) : Step where
  size := Size.clamp (a.size.toNat * b.size.toNat)
  ne_zero := by
    have := a.pos
    have := b.pos
    rw [Ne, Expression.clamp_eq_zero_iff, Nat.mul_eq_zero]
    omega

theorem Step.toNat_times (a b : Step) :
    (a.times b).size.toNat = min (a.size.toNat * b.size.toNat) Size.largest :=
  Size.toNat_clamp _

namespace Range

/-- The range that selects at once what `second` selects from what `first` selects. -/
def andThen (first second : Range) : Range where
  start := Size.clamp (first.start.toNat + first.step.size.toNat * second.start.toNat)
  stop := Size.clamp
    (min first.stop.toNat (first.start.toNat + first.step.size.toNat * second.stop.toNat))
  step := first.step.times second.step

theorem position_position (first second : Range) (k : Nat) :
    first.position (second.position k) =
      first.start.toNat + first.step.size.toNat * second.start.toNat +
        k * (first.step.size.toNat * second.step.size.toNat) := by
  simp only [position]
  ring

/-- A rank comes before another just when its position comes before that of the other. -/
theorem lt_iff_position_lt (r : Range) (j k : Nat) :
    j < k ↔ r.position j < r.start.toNat + r.step.size.toNat * k := by
  rw [position, Nat.add_lt_add_iff_left, Nat.mul_comm, Nat.mul_lt_mul_left r.step.pos]

/-- Two ranges, one after the other, select what a single range selects. -/
theorem select_select (first second : Range) {xs : List α} (fits : xs.length ≤ Size.largest) :
    second.select (first.select xs) = (first.andThen second).select xs := by
  apply List.ext_getElem?
  intro k
  have once : ((first.andThen second).select xs)[k]? =
      if first.position (second.position k) <
        min first.stop.toNat (first.start.toNat + first.step.size.toNat * second.stop.toNat)
      then xs[first.position (second.position k)]? else none := by
    rw [getElem?_select, position, andThen, Step.toNat_times, Size.toNat_clamp, Size.toNat_clamp,
      getElem?_cut fits, position_position]
  have inner := first.lt_iff_position_lt (second.position k) second.stop.toNat
  rw [once, getElem?_select, getElem?_select]
  by_cases reached : second.position k < second.stop.toNat
  · have before := inner.1 reached
    have both : first.position (second.position k) < first.stop.toNat ↔
        first.position (second.position k) <
          min first.stop.toNat (first.start.toNat + first.step.size.toNat * second.stop.toNat) := by
      omega
    simp only [if_pos reached, both]
  · have past := mt inner.2 reached
    rw [if_neg reached, if_neg (by omega)]

def expression (r : Range) (name : String) : Expression :=
  ⟨name, .slice (some r.start) (some r.stop) (some r.step)⟩

end Range

/-- **Selecting again.** What a range selects from the selection of another one, a single range
selects from the original sequence, whatever the bounds are: it starts at the position that the
second start has in the first range, stops at the first stop or at the position of the second one,
and its step is the product of both steps. Likewise, resolving a reference whose name is bound to
the selection of another reference selects what a single reference to the original selects. -/
theorem reselection_is_one_slice [Cluster γ α] [Cluster δ α] {xs : List α}
    (fits : xs.length ≤ Size.largest) :
    (∀ first second : Range, second.select (first.select xs) = (first.andThen second).select xs) ∧
    ∀ (settings settings' : Settings) (ns : Namespace γ) {t t' : String} {e e' : Expression}
      {value : γ},
      Expression.parse t = .ok e → Expression.parse t' = .ok e' →
      ns.lookup e.name = some value → Cluster.elements? value = some xs →
      ∃ selection : List α, (settings.resolve t ns).answer = .ok ⟨e.name, selection⟩ ∧
        ∀ (ns' : Namespace δ) {value' : δ},
          ns'.lookup e'.name = some value' → Cluster.elements? value' = some selection →
          let range := (e.bounds (Size.clamp xs.length)).andThen
            (e'.bounds (Size.clamp selection.length))
          (settings'.resolve t' ns').answer = .ok ⟨e'.name, range.select xs⟩ ∧
            (settings.resolve (range.expression e.name).text ns).answer =
              .ok ⟨e.name, range.select xs⟩ := by
  refine ⟨fun first second => first.select_select second fits, ?_⟩
  intro settings settings' ns t t' e e' value parsed parsed' bound elements
  refine ⟨_, resolve_of_bound settings parsed bound elements, ?_⟩
  intro ns' value' bound' elements' range
  constructor
  · rw [resolve_of_bound settings' parsed' bound' elements', Range.select_select _ _ fits]
  · have name : IsName e.name.toList := Expression.isName_of_parse parsed
    have single : Expression.parse (range.expression e.name).text = .ok (range.expression e.name) :=
      Expression.parse_text name
    exact resolve_of_bound settings single bound elements

/-- Every other element behind the first, and of these, now in a queue, every other one again, up to
a stop of twenty digits. -/
theorem reselection_is_one_slice_oversized :
    let xs := [10, 11, 12, 13, 14, 15, 16, 17, 18, 19]
    let ns : Namespace (List Nat) := Namespace.empty.bind "a" xs
    let ns' : Namespace (Deque Nat) := Namespace.empty.bind "b" ⟨[11, 13], [17, 15]⟩
    xs.length ≤ Size.largest ∧
      (({} : Settings).resolve "a[1:9:2]" ns).answer = .ok ⟨"a", [11, 13, 15, 17]⟩ ∧
      (({} : Settings).resolve "b[01:99999999999999999999:2]" ns').answer = .ok ⟨"b", [13, 17]⟩ ∧
      (({} : Settings).resolve "a[3:9:4]" ns).answer = .ok ⟨"a", [13, 17]⟩ := by
  intro xs ns ns'
  let first : Range := ⟨1, 9, ⟨2, by decide⟩⟩
  let second : Range := ⟨1, Size.clamp Size.largest, ⟨2, by decide⟩⟩
  have parsed : Expression.parse "a[1:9:2]" = .ok (first.expression "a") :=
    Expression.parse_eq_ok_iff.2 ⟨⟨['a'], some (.slice ['1'] ['9'] (some ['2']))⟩,
      Reference.spells_of_parse? (by decide), by decide⟩
  have parsed' : Expression.parse "b[01:99999999999999999999:2]" = .ok (second.expression "b") :=
    Expression.parse_eq_ok_iff.2
      ⟨⟨['b'], some (.slice ['0', '1'] "99999999999999999999".toList (some ['2']))⟩,
        Reference.spells_of_parse? (by decide), by decide⟩
  have fits : xs.length ≤ Size.largest := by decide
  have bound : ns.lookup "a" = some xs := by decide
  have bound' : ns'.lookup "b" = some ⟨[11, 13], [17, 15]⟩ := rfl
  have selected : first.select xs = [11, 13, 15, 17] := by decide
  obtain ⟨selection, answer, again⟩ :=
    (@reselection_is_one_slice _ Nat (Deque Nat) _ _ xs fits).2 {} {} ns parsed parsed' bound rfl
  obtain rfl : selection = first.select xs := by
    have computed := resolve_of_bound {} parsed bound rfl
    rw [answer] at computed
    exact congrArg Resolution.selection (Except.ok.inj computed)
  obtain ⟨twice, once⟩ := again ns' bound' (congrArg some selected.symm)
  have range : (first.andThen second).select xs = [13, 17] := by decide
  have text : ((first.andThen second).expression "a").text = "a[3:9:4]" := by decide
  refine ⟨fits, selected ▸ answer, range ▸ twice, ?_⟩
  rw [← text, ← range]
  exact once

end TreeSpec
