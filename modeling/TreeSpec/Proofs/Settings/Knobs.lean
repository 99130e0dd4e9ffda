import TreeSpec.Settings.Load
import TreeSpec.Proofs.Settings.Merging

/-!
# Fields of the settings

The fields of the settings are treated alike: a field has a key, a type of values, and values of
files and single values that give it. A tree that holds a value for each field is read as the
settings with these values, in whatever order its entries come (`decode_of_held`). A single value of
the right type changes what a tree holds for its field, and leaves the other field as it is
(`Knob.held?_setPath`).
-/

namespace TreeSpec.Settings

namespace Knob

/-- The value of a field in settings. -/
def get (s : Settings) : (k : Knob) → k.Value
  | .traceMatches => s.traceMatches
  | .maxKnownNames => s.maxKnownNames

/-- The value that a scalar gives for a field: a truth value, or an integer that is a size. -/
def ofScalar? : (k : Knob) → Scalar → Option k.Value
  | .traceMatches, .boolean b => some b
  | .maxKnownNames, .integer _ n => Size.ofInt? n
  | _, _ => none

/-- The value that a value of TOML gives for a field. -/
def ofToml? : (k : Knob) → Toml.Value → Option k.Value
  | .traceMatches, .boolean b => some b
  | .maxKnownNames, .integer n => Size.ofInt? n
  | _, _ => none

/-- The value that a tree stands for, which may also be a number or a word for a truth value. -/
def ofTree? : (k : Knob) → Tree → Option k.Value
  | .traceMatches, t => t.boolean.toOption
  | .maxKnownNames, t => t.size.toOption

/-- The value that an entry of a table of fields stands for, if it is that of the field. -/
def ofMember? (k : Knob) (e : String × Tree) : Option k.Value :=
  if e.1 = k.key then k.ofTree? e.2 else none

/-- The value that a table of fields holds for a field. -/
def within? (k : Knob) (r : Tree) : Option k.Value := (r.entry? k.key).bind k.ofTree?

/-- The value that a merged tree holds for a field. -/
def held? (k : Knob) (t : Tree) : Option k.Value := (t.entry? tableKey).bind k.within?

variable {k : Knob} {x : k.Value} {origin : Option String} {order : Order}

theorem ofTree?_scalar {s : Scalar} (h : k.ofScalar? s = some x) :
    k.ofTree? (.scalar origin s) = some x := by
  cases k with
  | traceMatches =>
    cases s <;> simp_all [ofScalar?, ofTree?, Tree.boolean, Except.toOption]
  | maxKnownNames =>
    cases s <;> simp_all [ofScalar?, ofTree?, Tree.size, Except.toOption]

theorem exists_scalar_of_toml {v : Toml.Value} (h : k.ofToml? v = some x) :
    ∃ s, Tree.ofToml origin v = .scalar origin s ∧ k.ofScalar? s = some x := by
  cases k <;> cases v <;> simp_all [ofToml?, ofScalar?, Tree.ofToml]

/-- A value of TOML that gives a field stands for what it gives. -/
theorem ofTree?_hashed_ofToml {v : Toml.Value} (h : k.ofToml? v = some x) :
    k.ofTree? ((Tree.ofToml origin v).hashed order) = some x := by
  obtain ⟨s, scalar, given⟩ := exists_scalar_of_toml h
  rw [scalar, Tree.hashed]
  · exact ofTree?_scalar given
  · nofun

theorem not_isTable_hashed_ofToml {v : Toml.Value} (h : k.ofToml? v = some x) :
    ¬ ((Tree.ofToml origin v).hashed order).IsTable := by
  obtain ⟨s, scalar, -⟩ := exists_scalar_of_toml h
  rw [scalar, Tree.hashed]
  · exact id
  · nofun

theorem lowercase_key (k : Knob) : Text.lowercase k.key = k.key := by
  cases k <;> decide

theorem key_inj {k k' : Knob} (h : k.key = k'.key) : k = k' := by
  cases k <;> cases k' <;> first | rfl | exact absurd h (by decide)

theorem lastSome?_ofMember? (k : Knob) (origin : Option String) {entries : List (String × Tree)}
    (distinct : (entries.map Prod.fst).Nodup) :
    lastSome? k.ofMember? entries = k.within? (.table origin entries) :=
  lastSome?_of_nodup distinct k.key k.ofTree?

end Knob

theorem lowercase_tableKey : Text.lowercase tableKey = tableKey := by decide

/-- Settings with given values of their fields. -/
def ofKnobs (value : (k : Knob) → k.Value) : Settings :=
  ⟨value .traceMatches, value .maxKnownNames⟩

theorem get_ofKnobs (value : (k : Knob) → k.Value) (k : Knob) :
    k.get (ofKnobs value) = value k := by
  cases k <;> rfl

/-- Whether the value of `resolver` in a tree, if there is one, is a table without a key twice. -/
def OnlyTable (t : Tree) : Prop := ∀ r, t.entry? tableKey = some r → r.IsTable ∧ r.KeysDistinct

theorem onlyTable_putEntry {value : Tree} (isTable : value.IsTable)
    (distinct : value.KeysDistinct) (t : Tree) : OnlyTable (t.putEntry tableKey value) := by
  intro r found
  rw [Tree.entry?_putEntry, if_pos rfl] at found
  obtain rfl := Option.some.inj found
  exact ⟨isTable, distinct⟩

theorem OnlyTable.keysDistinct_getD {t : Tree} (h : OnlyTable t) (other : Tree)
    (distinct : other.KeysDistinct) : ((t.entry? tableKey).getD other).KeysDistinct := by
  cases found : t.entry? tableKey with
  | none => exact distinct
  | some r => exact (h r found).2

/-! ### Reading the fields -/

theorem toOption_eq_some_iff {read : Except ε α} {a : α} :
    read.toOption = some a ↔ read = .ok a := by
  cases read <;> simp [Except.toOption]

namespace Knob

theorem ofKey?_eq_some_iff {key : String} {k : Knob} : ofKey? key = some k ↔ key = k.key := by
  constructor
  · intro h
    rw [ofKey?] at h
    have same := List.find?_some h
    exact (beq_iff_eq.1 same).symm
  · rintro rfl
    cases k <;> rfl

theorem ofKey?_eq_none_iff {key : String} : ofKey? key = none ↔ ∀ k : Knob, key ≠ k.key := by
  rw [Option.eq_none_iff_forall_ne_some]
  exact forall_congr' fun k => not_congr ofKey?_eq_some_iff

theorem decode_of_ofTree? {k : Knob} {value : Tree} {x : k.Value} (h : k.ofTree? value = some x)
    (place : String) : k.decode place value = .ok x := by
  cases k with
  | traceMatches => rw [decode, decodeBoolean, toOption_eq_some_iff.1 h]; rfl
  | maxKnownNames => rw [decode, decodeSize, toOption_eq_some_iff.1 h]; rfl

/-- The value of a field that has been found. -/
def found? : (k : Knob) → Fields → Option k.Value
  | .traceMatches, fields => fields.traceMatches
  | .maxKnownNames, fields => fields.maxKnownNames

theorem found?_put_self (k : Knob) (fields : Fields) (x : k.Value) :
    k.found? (fields.put k x) = some x := by
  cases k <;> rfl

theorem found?_put_of_ne {k k' : Knob} (h : k' ≠ k) (fields : Fields) (x : k.Value) :
    k'.found? (fields.put k x) = k'.found? fields := by
  cases k <;> cases k' <;> first | rfl | exact absurd rfl h

/-- An entry whose value is of the right type, if it is that of a field, is read. -/
theorem found?_read {e : String × Tree}
    (typed : ∀ k : Knob, e.1 = k.key → (k.ofTree? e.2).isSome) (fields : Fields) :
    ∃ next, fields.read e = .ok next ∧
      ∀ k : Knob, k.found? next = (k.ofMember? e).or (k.found? fields) := by
  rw [Fields.read]
  cases known : ofKey? e.1 with
  | none =>
    refine ⟨fields, rfl, fun k => ?_⟩
    rw [ofMember?, if_neg (ofKey?_eq_none_iff.1 known k), Option.none_or]
  | some k =>
    have own : e.1 = k.key := ofKey?_eq_some_iff.1 known
    obtain ⟨x, hx⟩ := Option.isSome_iff_exists.1 (typed k own)
    refine ⟨fields.put k x, ?_, fun k' => ?_⟩
    · simp only [decode_of_ofTree? hx, Except.map]
    · by_cases same : k' = k
      · subst same
        rw [found?_put_self, ofMember?, if_pos own, hx, Option.some_or]
      · have other : e.1 ≠ k'.key := fun own' => same (key_inj (own'.symm.trans own))
        rw [found?_put_of_ne same, ofMember?, if_neg other, Option.none_or]

/-- Entries with values of the right types are all read, and the last one of a field is found. -/
theorem found?_readAll {entries : List (String × Tree)}
    (typed : ∀ e ∈ entries, ∀ k : Knob, e.1 = k.key → (k.ofTree? e.2).isSome) (fields : Fields) :
    ∃ last, entries.foldlM Fields.read fields = .ok last ∧
      ∀ k : Knob, k.found? last = (lastSome? k.ofMember? entries).or (k.found? fields) := by
  -- The fields found so far are carried along: a later entry replaces what an earlier one gave.
  induction entries generalizing fields with
  | nil => exact ⟨fields, rfl, fun _ => rfl⟩
  | cons e rest ih =>
    obtain ⟨here, behind⟩ := List.forall_mem_cons.1 typed
    obtain ⟨next, read, found⟩ := found?_read here fields
    obtain ⟨last, readAll, foundAll⟩ := ih behind next
    refine ⟨last, ?_, fun k => ?_⟩
    · rw [List.foldlM_cons, read]
      exact readAll
    · rw [foundAll, found, lastSome?_cons, Option.or_assoc]

theorem settings_of_found {fields : Fields} {value : (k : Knob) → k.Value}
    (h : ∀ k : Knob, k.found? fields = some (value k)) : fields.settings = .ok (ofKnobs value) := by
  obtain ⟨traceMatches, maxKnownNames⟩ := fields
  obtain rfl : traceMatches = some (value .traceMatches) := h .traceMatches
  obtain rfl : maxKnownNames = some (value .maxKnownNames) := h .maxKnownNames
  rfl

end Knob

/-- A table that holds a value for each field is read as the settings with these values, in whatever
order its entries come. -/
theorem decodeResolver_of_within {origin : Option String} {entries : List (String × Tree)}
    {value : (k : Knob) → k.Value} (distinct : (entries.map Prod.fst).Nodup)
    (h : ∀ k : Knob, k.within? (.table origin entries) = some (value k)) (order : Order) :
    decodeResolver order (.table origin entries) = .ok (ofKnobs value) := by
  -- no key is there twice, so each field is found in its one entry, wherever that is met
  have same := order.perm [] entries
  have arranged : ((order.arrange [] entries).map Prod.fst).Nodup :=
    (same.map Prod.fst).nodup_iff.2 distinct
  have typed : ∀ e ∈ order.arrange [] entries, ∀ k : Knob, e.1 = k.key →
      (k.ofTree? e.2).isSome := by
    intro e he k own
    have found : entries.lookup k.key = some e.2 :=
      (lookup_eq_some_iff_mem distinct).2 (own ▸ same.mem_iff.1 he)
    obtain ⟨v, hv, given⟩ := Option.bind_eq_some_iff.1 (h k)
    obtain rfl := Option.some.inj (found.symm.trans hv)
    rw [given, Option.isSome_some]
  obtain ⟨last, read, found⟩ := Knob.found?_readAll typed {}
  have all (k : Knob) : k.found? last = some (value k) := calc
    k.found? last = (lastSome? k.ofMember? (order.arrange [] entries)).or (k.found? {}) := found k
    _ = (((order.arrange [] entries).lookup k.key).bind k.ofTree?).or (k.found? {}) := by
      rw [k.lastSome?_ofMember? none arranged]
      rfl
    _ = (k.within? (.table origin entries)).or (k.found? {}) := by
      rw [lookup_of_perm same distinct]
      rfl
    _ = some (value k) := by rw [h, Option.some_or]
  simp only [decodeResolver, read, bind, Except.bind]
  exact Knob.settings_of_found all

/-- A tree that holds a value for each field is read as the settings with these values. -/
theorem decode_of_held {t : Tree} {value : (k : Knob) → k.Value} (only : OnlyTable t)
    (h : ∀ k : Knob, k.held? t = some (value k)) (order : Order) :
    decode order t = .ok (ofKnobs value) := by
  obtain ⟨r, found, -⟩ := Option.bind_eq_some_iff.1 (h .traceMatches)
  obtain ⟨isTable, distinct⟩ := only r found
  cases r with
  | scalar | array => exact isTable.elim
  | table origin entries =>
    rw [decode, found]
    refine decodeResolver_of_within distinct (fun k => ?_) order
    rw [← h k, Knob.held?, found, Option.bind_some]

/-! ### Single values -/

namespace Knob

/-- The path to a field. -/
def path (k : Knob) : KeyPath := ⟨tableKey, [.key k.key]⟩

/-- The key of a single value that is a field. -/
def dotted (k : Knob) : String := tableKey ++ "." ++ k.key

theorem parse_dotted (k : Knob) : KeyPath.parse k.dotted = .ok k.path := by
  cases k <;> rfl

theorem path_inj {k k' : Knob} (h : k.path = k'.path) : k = k' := by
  apply key_inj
  simpa [path] using h

theorem dotted_inj {k k' : Knob} (h : k.dotted = k'.dotted) : k = k' := by
  have parsed : (.ok k.path : Except PathFault KeyPath) = .ok k'.path := by
    rw [← parse_dotted, h, parse_dotted]
  exact path_inj (Except.ok.inj parsed)

/-- The value that a single value gives in place of a field. -/
def ofLeaf? (k : Knob) : Tree → Option k.Value
  | .scalar _ s => k.ofScalar? s
  | _ => none

/-- The value that a single value with its path gives for a field. -/
def ofPathValue? (k : Knob) (e : KeyPath × Tree) : Option k.Value :=
  if e.1 = k.path then k.ofLeaf? e.2 else none

theorem setPath_path (t value : Tree) (k : Knob) :
    t.setPath k.path value =
      t.putEntry tableKey (((t.entry? tableKey).getD .nil).merge k.key value) := by
  simp only [Tree.setPath, path, Tree.set, Tree.changeEntry, lowercase_tableKey]

variable {k k' : Knob} {value : Tree}

/-- A value in place of a field has no tables. -/
theorem hashed_of_typed (typed : (k.ofLeaf? value).isSome) (order : Order) :
    value.hashed order = value := by
  cases value with
  | array | table => exact absurd typed nofun
  | scalar => rw [Tree.hashed]; nofun

/-- A single value of the right type changes the field that it gives. -/
theorem held?_setPath (typed : (k'.ofLeaf? value).isSome) (t : Tree) :
    k.held? (t.setPath k'.path value) = (k.ofPathValue? (k'.path, value)).or (k.held? t) := by
  rw [setPath_path, held?, Tree.entry?_putEntry, if_pos rfl, Option.bind_some, within?,
    ofPathValue?]
  by_cases own : k = k'
  · subst own
    obtain ⟨x, hx⟩ := Option.isSome_iff_exists.1 typed
    cases value with
    | array | table => exact absurd hx nofun
    | scalar origin s =>
      rw [Tree.entry?_merge_self (lowercase_key k) id, if_pos rfl, hx]
      exact ofTree?_scalar hx
  · have other : k.key ≠ Text.lowercase k'.key := by
      rw [lowercase_key]
      exact fun same => own (key_inj same)
    rw [Tree.entry?_merge_of_ne other, if_neg fun same => own (path_inj same).symm,
      Option.none_or, held?]
    cases t.entry? tableKey <;> rfl

end Knob

theorem OnlyTable.setPath {t : Tree} (h : OnlyTable t) (value : Tree) (k : Knob) :
    OnlyTable (t.setPath k.path value) := by
  rw [Knob.setPath_path]
  exact onlyTable_putEntry (Tree.isTable_merge ..) ((h.keysDistinct_getD .nil trivial).merge _ _) t

end TreeSpec.Settings
