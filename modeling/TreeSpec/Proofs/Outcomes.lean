import TreeSpec.Resolver
import TreeSpec.Proofs.Parsing

/-!
# How a resolution ends

The checks of a resolution come in a fixed order, and each of them has an ending of its own
(`resolve_ends_in_order`). The events follow from the ending alone: a value without a length
is reported once, and a value with a length always has a slice.
-/

namespace TreeSpec

/-- What an event shows: its level, its message and its fields with their texts. -/
abbrev Shown := String × String × List (String × String)

/-- What a log shows of an event. -/
def Event.shown (event : Event) : Shown := (event.level.text, event.message, event.fields)

def shownBound : Option Nat → String
  | none => "None"
  | some n => "Some(" ++ toString n ++ ")"

def shownMatch (form name : String) (start stop step : Option Nat) : Shown :=
  ("TRACE", "expression matched", [("form", form), ("name", name), ("start", shownBound start),
    ("stop", shownBound stop), ("step", shownBound step)])

/-- What a log shows of an expression that has been read. An index is shown as the slice from its
position to the next one, which is cut off at the largest size. -/
def Expression.matchShown (e : Expression) : Shown :=
  match e.subscript with
  | .all => shownMatch "bare" e.name none none none
  | .index i =>
    shownMatch "index" e.name (some i.toNat) (some (min (i.toNat + 1) Size.largest)) none
  | .slice start stop step =>
    shownMatch "slice" e.name (start.map (·.toNat)) (stop.map (·.toNat)) (step.map (·.size.toNat))

/-- What a message calls a JSON value that is not an array. -/
def Json.Value.otherKind? : Json.Value → Option String
  | .null => some "null"
  | .bool _ => some "a JSON boolean"
  | .number _ => some "a JSON number"
  | .string _ => some "a JSON string"
  | .array _ => none
  | .object _ => some "a JSON object"

/-- The endings of an expression in a namespace, with what a log shows of each of them.
`otherKind?` says what the values are called that are not sequences. -/
inductive Ends [Cluster γ α] (otherKind? : γ → Option String) (e : Expression) (ns : Namespace γ) :
    Except ReaderError (Resolution α) → List Shown → Prop
  | unbound {known : List String} (missing : ns.lookup e.name = none) :
      Ends otherKind? e ns (.error (.unknownVariable e.name known))
        [("DEBUG", "unknown variable", [("name", e.name), ("known", toString known.length)])]
  | mismatch {value : γ} {found : String} (bound : ns.lookup e.name = some value)
      (other : otherKind? value = some found) :
      Ends otherKind? e ns (.error (.typeMismatch e.name found))
        [("DEBUG", "bound value cannot be sliced", [("name", e.name), ("found", found)])]
  | resolved {value : γ} {selection : List α} (bound : ns.lookup e.name = some value)
      (sequence : otherKind? value = none) :
      Ends otherKind? e ns (.ok ⟨e.name, selection⟩) []

/-- What resolving in a namespace has to be like. A text that is no expression is refused without
an event, whatever is bound; an expression has one of its endings. Only an expression that is
read from a text is traced, before its ending, if the settings ask for it. -/
structure EndsInOrder [Cluster γ α] (otherKind? : γ → Option String) (settings : Settings)
    (ns : Namespace γ) : Prop where
  refused {text : String} {error : ReaderError} (h : Expression.parse text = .error error) :
    (∃ reason, error = .invalidExpression text reason) ∧
      settings.resolve text ns = { answer := .error error, events := [] }
  read {text : String} {e : Expression} (h : Expression.parse text = .ok e) :
    ∃ shown, Ends otherKind? e ns (settings.resolve text ns).answer shown ∧
      (settings.resolve text ns).events.map Event.shown =
        (if settings.traceMatches then [e.matchShown] else []) ++ shown
  given (e : Expression) :
    Ends otherKind? e ns (settings.resolveExpression e ns).answer
      ((settings.resolveExpression e ns).events.map Event.shown)

theorem Event.boundText_eq (bound : Option Size) :
    boundText bound = shownBound (bound.map (·.toNat)) := by
  cases bound <;> rfl

theorem shown_expressionMatched (e : Expression) :
    (Event.expressionMatched e).shown = e.matchShown := by
  obtain ⟨name, subscript⟩ := e
  simp only [Event.shown, Event.fields, Event.boundText_eq, Option.map_map]
  cases subscript with
  | all => rfl
  | index i =>
    simp only [Expression.matchShown, ← Size.toNat_clamp]
    rfl
  | slice => rfl

section
variable [Cluster γ α] {otherKind? : γ → Option String} {ns : Namespace γ}

/-- A length and a slice are there for the same values: those that are sequences. -/
theorem resolveExpression_ends (settings : Settings) (e : Expression)
    (h : ∀ value : γ, otherKind? value =
      if (Cluster.elements? value).isSome then none else some (Cluster.kind value)) :
    Ends otherKind? e ns (settings.resolveExpression e ns).answer
      ((settings.resolveExpression e ns).events.map Event.shown) := by
  unfold Settings.resolveExpression
  cases bound : ns.lookup e.name with
  | none => exact .unbound bound
  | some value =>
    simp only [Cluster.length?_eq, Cluster.slice?_eq]
    cases elements : Cluster.elements? value with
    | none =>
      have other : otherKind? value = some (Cluster.kind value) := by simp [h, elements]
      exact .mismatch bound other
    | some xs =>
      have sequence : otherKind? value = none := by simp [h, elements]
      exact .resolved bound sequence

/-- What a log shows of a text that is read: the match if it is traced, and then what it shows of
the expression. -/
theorem shown_of_parse (settings : Settings) {t : String} {e : Expression}
    (parsed : Expression.parse t = .ok e) :
    (settings.resolve t ns).events.map Event.shown =
      (if settings.traceMatches then [e.matchShown] else []) ++
        (settings.resolveExpression e ns).events.map Event.shown := by
  simp only [Settings.resolve, parsed, List.map_append]
  congr 1
  split
  · rw [List.map_singleton, shown_expressionMatched]
  · rfl

theorem endsInOrder (settings : Settings)
    (h : ∀ value : γ, otherKind? value =
      if (Cluster.elements? value).isSome then none else some (Cluster.kind value)) :
    EndsInOrder otherKind? settings ns where
  refused refused := by
    refine ⟨?_, by simp only [Settings.resolve, refused]⟩
    rcases Expression.error_of_parse refused with ⟨rfl, _⟩ | ⟨rfl, _⟩
    · exact ⟨_, rfl⟩
    · exact ⟨_, rfl⟩
  read {text e} parsed := by
    refine ⟨_, ?_, shown_of_parse settings parsed⟩
    simp only [Settings.resolve, parsed]
    exact resolveExpression_ends settings e h
  given e := resolveExpression_ends settings e h

end

/-- **Endings.** A text that is no expression is refused. Otherwise its name may not be bound,
or be bound to a JSON value other than an array; in all other cases there is an answer. The log
has the match, if it is traced, and then one event for a name that is not bound or a value that
is not a sequence, and none for an answer. -/
theorem resolve_ends_in_order (settings : Settings) :
    (∀ ns : Namespace (List α), EndsInOrder (fun _ => none) settings ns) ∧
    (∀ ns : Namespace (Deque α), EndsInOrder (fun _ => none) settings ns) ∧
    (∀ ns : Namespace Json.Value, EndsInOrder Json.Value.otherKind? settings ns) := by
  refine ⟨fun ns => ?_, fun ns => ?_, fun ns => ?_⟩
  · exact endsInOrder settings fun _ => rfl
  · exact endsInOrder settings fun _ => rfl
  · exact endsInOrder settings fun value => by cases value <;> rfl

end TreeSpec
