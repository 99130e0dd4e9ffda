import TreeSpec.Proofs.KnownNames

/-!
# What a resolution depends on

A reference is resolved from the elements that its name is bound to, and from nothing else: not from
the kind of the value that holds them, nor from the other bindings, nor from the settings. Where the
name is not bound, all that can be told apart are the bound names and how many of them may be listed
(`resolution_sees_named_elements`).
-/

namespace TreeSpec

def Logged.debugEvents (logged : Logged α) : List Event :=
  logged.events.filter fun event => event.level = .debug

/-- A queue may as well be sliced position by position, each in the part where it lies. -/
theorem Deque.slice?_eq_get? (q : Deque α) (r : Range) :
    Cluster.slice? q r = some ((r.positions q.length).filterMap q.get?) := by
  have positions : r.select q.toList = (r.positions q.length).filterMap q.get? := by
    rw [Range.select_eq, Deque.length_toList]
    simp only [Deque.getElem?_toList]
  rw [← positions]
  rfl

section
variable [Cluster γ α] {ns : Namespace γ} {t : String} {e : Expression} {value : γ} {xs : List α}

/-- A match is traced, and so is none of the events that are logged in any case. -/
theorem debugEvents_of_parse (settings : Settings) (parsed : Expression.parse t = .ok e) :
    (settings.resolve t ns).debugEvents = (settings.resolveExpression e ns).debugEvents := by
  simp only [Settings.resolve, parsed, Logged.debugEvents, List.filter_append]
  split
  · rfl
  · rfl

theorem debugEvents_of_bound (settings : Settings) (parsed : Expression.parse t = .ok e)
    (bound : ns.lookup e.name = some value) (elements : Cluster.elements? value = some xs) :
    (settings.resolve t ns).debugEvents = [] := by
  rw [debugEvents_of_parse settings parsed]
  simp only [Settings.resolveExpression, bound, Cluster.length?_eq, Cluster.slice?_eq, elements,
    Option.map_some]
  rfl

theorem resolve_of_unbound (settings : Settings) (parsed : Expression.parse t = .ok e)
    (unbound : ns.lookup e.name = none) :
    (settings.resolve t ns).answer =
        .error (.unknownVariable e.name (settings.knownNames ns)) ∧
      (settings.resolve t ns).debugEvents =
        [.unknownVariable e.name (settings.knownNames ns).length] := by
  constructor
  · rw [resolve_of_parse settings parsed, resolveExpression_of_unbound settings unbound]
  · rw [debugEvents_of_parse settings parsed]
    simp only [Settings.resolveExpression, unbound]
    rfl

end

/-- The names that are listed depend on which names are bound and on how many may be listed. -/
theorem knownNames_congr {settings settings' : Settings} {ns : Namespace γ} {ns' : Namespace δ}
    (same : ∀ n, n ∈ ns'.names ↔ n ∈ ns.names)
    (cap : settings.maxKnownNames = settings'.maxKnownNames) :
    settings'.knownNames ns' = settings.knownNames ns := by
  rw [Settings.knownNames, Settings.knownNames, Namespace.sortedNames_congr same, cap]

/-- **Independence.** Two namespaces that bind the name of a reference to the same elements, whether
in lists, queues or arrays, give the same answer and no message, whatever else is bound in them and
whatever the settings are. If the name is bound in neither, then namespaces with the same bound
names, of which equally many may be listed, give the same error and the same message. A queue is
sliced as a list is, although its elements are read one by one. -/
theorem resolution_sees_named_elements [Cluster γ α] [Cluster δ α] [Cluster ε β]
    (settings settings' : Settings) (ns : Namespace γ) {t : String} {e : Expression}
    (parsed : Expression.parse t = .ok e) :
    (∀ (ns' : Namespace δ) {value : γ} {value' : δ} {xs : List α},
      ns.lookup e.name = some value → Cluster.elements? value = some xs →
      ns'.lookup e.name = some value' → Cluster.elements? value' = some xs →
      ∃ resolution : Resolution α,
        (settings.resolve t ns).answer = .ok resolution ∧
        (settings'.resolve t ns').answer = .ok resolution ∧
        (settings.resolve t ns).debugEvents = [] ∧ (settings'.resolve t ns').debugEvents = []) ∧
    (∀ ns' : Namespace ε,
      ns.lookup e.name = none → ns'.lookup e.name = none →
      (∀ n, n ∈ ns'.names ↔ n ∈ ns.names) → settings.maxKnownNames = settings'.maxKnownNames →
      ∃ known,
        (settings.resolve t ns).answer = .error (.unknownVariable e.name known) ∧
        (settings'.resolve t ns').answer = .error (.unknownVariable e.name known) ∧
        (settings.resolve t ns).debugEvents = [.unknownVariable e.name known.length] ∧
        (settings'.resolve t ns').debugEvents = [.unknownVariable e.name known.length]) ∧
    (∀ (q : Deque α) (r : Range),
      Cluster.slice? q r = some ((r.positions q.length).filterMap q.get?)) := by
  refine ⟨?_, ?_, Deque.slice?_eq_get?⟩
  · intro ns' value value' xs bound elements bound' elements'
    exact ⟨_, resolve_of_bound settings parsed bound elements,
      resolve_of_bound settings' parsed bound' elements',
      debugEvents_of_bound settings parsed bound elements,
      debugEvents_of_bound settings' parsed bound' elements'⟩
  · intro ns' unbound unbound' same cap
    have first := resolve_of_unbound settings parsed unbound
    have second := resolve_of_unbound settings' parsed unbound'
    rw [knownNames_congr same cap] at second
    exact ⟨_, first.1, second.1, first.2, second.2⟩

/-- A queue and an array beside other bindings, with opposite settings; and a name that is bound in
neither of a list and an array that bind two other names, in different orders. -/
theorem resolution_sees_named_elements_kinds :
    let elements : List Json.Value := [.null, .bool true, .string "x"]
    let e : Expression := ⟨"a", .slice (some 1) none none⟩
    let queues : Namespace (Deque Json.Value) :=
      ⟨[("b", ⟨[], []⟩), ("a", ⟨[.null], [.string "x", .bool true]⟩)], by decide⟩
    let values : Namespace Json.Value := ⟨[("a", .array elements), ("c", .bool false)], by decide⟩
    let lists : Namespace (List Nat) := ⟨[("z", [1]), ("é", [])], by decide⟩
    let others : Namespace Json.Value := ⟨[("é", .null), ("z", .array [])], by decide⟩
    let tracing : Settings := ⟨true, 0⟩
    let listing : Settings := ⟨false, 1⟩
    Expression.parse "a[01:]" = .ok e ∧
      (∃ resolution : Resolution Json.Value,
        (tracing.resolve "a[01:]" queues).answer = .ok resolution ∧
        (listing.resolve "a[01:]" values).answer = .ok resolution) ∧
      ∃ known,
        (listing.resolve "a[01:]" lists).answer = .error (.unknownVariable "a" known) ∧
        (({ tracing with maxKnownNames := 1 } : Settings).resolve "a[01:]" others).answer =
          .error (.unknownVariable "a" known) := by
  intro elements e queues values lists others tracing listing
  have parsed : Expression.parse "a[01:]" = .ok e :=
    Expression.parse_eq_ok_iff.2 ⟨⟨['a'], some (.slice ['0', '1'] [] none)⟩,
      Reference.spells_of_parse? (by decide), by decide⟩
  have same : ∀ n, n ∈ others.names ↔ n ∈ lists.names := by
    intro n
    simp only [Namespace.names, List.map_cons, List.map_nil, List.mem_cons, lists, others]
    tauto
  obtain ⟨resolution, queue, array, -⟩ := (@resolution_sees_named_elements (Deque Json.Value) _
    Json.Value (List Nat) _ _ _ _ tracing listing queues _ e parsed).1 values rfl rfl rfl rfl
  obtain ⟨known, list, other, -⟩ := (@resolution_sees_named_elements (List Nat) _ (List Nat)
    Json.Value _ _ _ _ listing { tracing with maxKnownNames := 1 } lists _ e parsed).2.1 others
    (by decide) rfl same rfl
  exact ⟨parsed, ⟨resolution, queue, array⟩, known, list, other⟩

end TreeSpec
