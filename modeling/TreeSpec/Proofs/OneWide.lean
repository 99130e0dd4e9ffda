import TreeSpec.Proofs.Outcomes
import TreeSpec.Proofs.Rendering
import TreeSpec.Proofs.Selection
import TreeSpec.Proofs.Stepping

/-!
# Slices that are one wide

An index stops one further on from a number that may have been cut off, while the slice from a
number to the next one cuts off both of them. They end at the same size (`Expression.clamp_next`),
so an index and this slice select alike, however their numbers are spelled and however large they
are (`index_is_slice_of_one`). They are two expressions all the same, and a log that traces matches
tells them apart by the form.
-/

namespace TreeSpec

open Text Reference

namespace Range

/-- A range whose stop is at most one behind its start selects one position or none. -/
theorem count_le_one {r : Range} (narrow : r.stop.toNat ≤ r.start.toNat + 1) (length : Nat) :
    r.count length ≤ 1 := by
  by_contra many
  -- a second position would lie a whole step behind the start
  have second := (r.lt_count_iff length 1).1 (by omega)
  have := r.step.pos
  rw [position] at second
  omega

theorem length_select_le_one {r : Range} (narrow : r.stop.toNat ≤ r.start.toNat + 1)
    (xs : List α) : (r.select xs).length ≤ 1 := by
  rw [length_select, positions, List.length_map, List.length_range]
  exact count_le_one narrow xs.length

end Range

/-- The answers to an expression with a given name that asks for one element: it is selected or not
there, or else the name is not bound or its value is not a sequence. -/
inductive AtMostOne (name : String) : Except ReaderError (Resolution α) → Prop
  | selected {selection : List α} (short : selection.length ≤ 1) :
      AtMostOne name (.ok ⟨name, selection⟩)
  | unbound {known : List String} : AtMostOne name (.error (.unknownVariable name known))
  | mismatch {found : String} : AtMostOne name (.error (.typeMismatch name found))

namespace Expression

theorem bounds_index (name : String) (i : Nat) (length : Size) :
    bounds ⟨name, .index (Size.clamp i)⟩ length = ⟨Size.clamp i, Size.clamp (i + 1), .one⟩ := by
  rw [← clamp_next]
  rfl

/-- The fields of a match that asks for the element at a position, without the form. -/
def fieldsOfOne (name : String) (i : Nat) : List (String × String) :=
  [("name", name), ("start", shownBound (some (min i Size.largest))),
    ("stop", shownBound (some (min (i + 1) Size.largest))), ("step", shownBound none)]

theorem matchShown_index (name : String) (i : Nat) :
    matchShown ⟨name, .index (Size.clamp i)⟩ =
      ("TRACE", "expression matched", ("form", "index") :: fieldsOfOne name i) := by
  have next : min (min i Size.largest + 1) Size.largest = min (i + 1) Size.largest := by omega
  simp only [matchShown, shownMatch, fieldsOfOne, Size.toNat_clamp, next]

theorem matchShown_slice (name : String) (i : Nat) :
    matchShown ⟨name, .slice (some (Size.clamp i)) (some (Size.clamp (i + 1))) none⟩ =
      ("TRACE", "expression matched", ("form", "slice") :: fieldsOfOne name i) := by
  simp only [matchShown, shownMatch, fieldsOfOne, Option.map_some, Option.map_none,
    Size.toNat_clamp]

end Expression

section
variable [Cluster γ α] {e : Expression}

/-- An expression whose bounds are one wide has one of the answers with at most one element. -/
theorem atMostOne_of_narrow (settings : Settings) (ns : Namespace γ)
    (narrow : ∀ length, (e.bounds length).stop.toNat ≤ (e.bounds length).start.toNat + 1) :
    AtMostOne e.name (settings.resolveExpression e ns).answer := by
  unfold Settings.resolveExpression
  cases ns.lookup e.name with
  | none => exact .unbound
  | some value =>
    simp only [Cluster.length?_eq, Cluster.slice?_eq]
    cases Cluster.elements? value with
    | none => exact .mismatch
    | some xs => exact .selected (Range.length_select_le_one (narrow _) xs)

end

/-- **Indices and slices.** The index of a number and the slice from this number to the next one,
each spelled in any way and as large as can be, are read as two different expressions with the same
bounds for every length. They resolve to the same answer in every namespace, which is no selection
of more than one element. If matches are traced, then the logs show the same but for the form of the
match; otherwise they show the same. -/
theorem index_is_slice_of_one [Cluster γ α] {name run start stop : List Char} {k : Nat}
    (word : IsName name) (run_k : Writes run k) (start_k : Writes start k)
    (stop_k : Writes stop (k + 1)) :
    ∃ e e', Expression.parse (indexText name run) = .ok e ∧
      Expression.parse (sliceText name start stop none) = .ok e' ∧
      (∀ length, e.bounds length = ⟨Size.clamp k, Size.clamp (k + 1), .one⟩ ∧
        e'.bounds length = e.bounds length) ∧
      e ≠ e' ∧
      ∀ (settings : Settings) (ns : Namespace γ),
        let index := settings.resolve (indexText name run) ns
        let slice := settings.resolve (sliceText name start stop none) ns
        slice.answer = index.answer ∧
        settings.resolveExpression e' ns = settings.resolveExpression e ns ∧
        AtMostOne (String.ofList name) index.answer ∧
        ∃ shown : List Shown,
          let fields := Expression.fieldsOfOne (String.ofList name) k
          index.events.map Event.shown = (if settings.traceMatches then
            [("TRACE", "expression matched", ("form", "index") :: fields)] else []) ++ shown ∧
          slice.events.map Event.shown = (if settings.traceMatches then
            [("TRACE", "expression matched", ("form", "slice") :: fields)] else []) ++ shown := by
  let e : Expression := ⟨String.ofList name, .index (Size.clamp k)⟩
  let e' : Expression :=
    ⟨String.ofList name, .slice (some (Size.clamp k)) (some (Size.clamp (k + 1))) none⟩
  have parsed : Expression.parse (indexText name run) = .ok e :=
    Expression.parse_indexText word run_k
  have parsed' : Expression.parse (sliceText name start stop none) = .ok e' :=
    Expression.parse_sliceText word start_k stop_k
  have bounds (length : Size) : e.bounds length = ⟨Size.clamp k, Size.clamp (k + 1), .one⟩ :=
    Expression.bounds_index _ k length
  have same (length : Size) : e'.bounds length = e.bounds length := (bounds length).symm
  refine ⟨e, e', parsed, parsed', fun length => ⟨bounds length, same length⟩, by simp [e, e'], ?_⟩
  intro settings ns index slice
  have resolved : settings.resolveExpression e' ns = settings.resolveExpression e ns :=
    resolveExpression_congr settings rfl same
  refine ⟨?_, resolved, ?_, ?_⟩
  · rw [resolve_of_parse settings parsed, resolve_of_parse settings parsed', resolved]
  · rw [resolve_of_parse settings parsed]
    refine atMostOne_of_narrow (e := e) settings ns fun length => ?_
    rw [bounds, Size.toNat_clamp, Size.toNat_clamp]
    omega
  · have log : index.events.map Event.shown = _ := shown_of_parse settings parsed
    have log' : slice.events.map Event.shown = _ := shown_of_parse settings parsed'
    have traced : e.matchShown = _ := Expression.matchShown_index _ k
    have traced' : e'.matchShown = _ := Expression.matchShown_slice _ k
    rw [traced] at log
    rw [traced', resolved] at log'
    exact ⟨_, log, log'⟩

/-- An index of twenty digits, with a zero in front in the slice, whose stop has a digit more. -/
theorem index_is_slice_of_one_carry :
    let k := 99999999999999999999
    let run := "99999999999999999999".toList
    let start := "099999999999999999999".toList
    let stop := "100000000000000000000".toList
    let settings : Settings := { traceMatches := true }
    let ns : Namespace (List Nat) := Namespace.empty.bind "a" [10, 20, 30]
    let fields := [("name", "a"), ("start", "Some(18446744073709551615)"),
      ("stop", "Some(18446744073709551615)"), ("step", "None")]
    (IsName ['a'] ∧ Writes run k ∧ Writes start k ∧ Writes stop (k + 1)) ∧
      indexText ['a'] run = "a[99999999999999999999]" ∧
      sliceText ['a'] start stop none = "a[099999999999999999999:100000000000000000000]" ∧
      (settings.resolve (sliceText ['a'] start stop none) ns).answer =
        (settings.resolve (indexText ['a'] run) ns).answer ∧
      ∃ shown,
        (settings.resolve (indexText ['a'] run) ns).events.map Event.shown =
          ("TRACE", "expression matched", ("form", "index") :: fields) :: shown ∧
        (settings.resolve (sliceText ['a'] start stop none) ns).events.map Event.shown =
          ("TRACE", "expression matched", ("form", "slice") :: fields) :: shown := by
  intro k run start stop settings ns fields
  have word : IsName ['a'] := by decide
  have run_k : Writes run k := by decide
  have start_k : Writes start k := by decide
  have stop_k : Writes stop (k + 1) := by decide
  obtain ⟨e, e', -, -, -, -, resolved⟩ :=
    @index_is_slice_of_one (List Nat) Nat _ _ _ _ _ _ word run_k start_k stop_k
  obtain ⟨answer, -, -, shown, index, slice⟩ := resolved settings ns
  have traced : Expression.fieldsOfOne (String.ofList ['a']) k = fields := by decide
  rw [traced] at index slice
  exact ⟨⟨word, run_k, start_k, stop_k⟩, by decide, by decide, answer, shown, index, slice⟩

end TreeSpec
