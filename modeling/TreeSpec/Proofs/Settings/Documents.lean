import TreeSpec.Proofs.Settings.Knobs

/-!
# Documents of settings

A plain document has values of the right types, and what else it has cannot be taken for settings.
It changes what a tree holds for a field to what it gives for it, and leaves it as it is where it
gives nothing (`Knob.held?_addDocument`). The orders of tables make no difference, since only one
entry of a table is about a field. The built-in document is plain and gives all fields
(`exists_builtIn`).
-/

namespace TreeSpec.Settings

theorem entriesOfToml_eq_map (origin : Option String) (table : Toml.Table) :
    entriesOfToml origin table = table.map fun e => (e.1, Tree.ofToml origin e.2) := by
  induction table with
  | nil => rw [entriesOfToml, List.map_nil]
  | cons e table ih => rw [entriesOfToml, ih, List.map_cons]

theorem hashedEntries_eq_map (order : Order) (entries : List (String × Tree)) :
    Tree.hashedEntries order entries =
      entries.map fun e => (e.1, e.2.hashed (order.under e.1)) := by
  induction entries with
  | nil => rw [Tree.hashedEntries, List.map_nil]
  | cons e entries ih => rw [Tree.hashedEntries, ih, List.map_cons]

theorem hashedToml_eq_visit (order : Order) (origin : Option String) (table : Toml.Table) :
    hashedToml order origin table = order.visit
      (table.map fun e => (e.1, (Tree.ofToml origin e.2).hashed (order.under e.1))) := by
  rw [hashedToml, entriesOfToml_eq_map, hashedEntries_eq_map, List.map_map]
  rfl

theorem hashed_ofToml_table (order : Order) (origin : Option String) (fields : Toml.Table) :
    (Tree.ofToml origin (.table fields)).hashed order =
      .table origin (hashedToml order origin fields) := by
  rw [Tree.ofToml, Tree.hashed, hashedToml]

section
variable {order : Order} {origin : Option String} {table : Toml.Table}

theorem nodup_keys_hashedToml : ((hashedToml order origin table).map Prod.fst).Nodup :=
  order.nodup_keys_visit _

/-- The entries that are met are those of the document. -/
theorem forall_mem_hashedToml {P : String × Tree → Prop}
    (h : ∀ key v, (key, v) ∈ table → P (key, (Tree.ofToml origin v).hashed (order.under key))) :
    ∀ e ∈ hashedToml order origin table, P e := by
  intro e he
  rw [hashedToml_eq_visit] at he
  obtain ⟨⟨key, v⟩, entry, rfl⟩ := List.mem_map.1 (order.mem_of_mem_visit _ he)
  exact h key v entry

theorem lastSome?_hashedToml (key : String) (f : Tree → Option β) :
    lastSome? (fun e => if e.1 = key then f e.2 else none) (hashedToml order origin table) =
      (lastUnder key table).bind fun v => f ((Tree.ofToml origin v).hashed (order.under key)) := by
  rw [hashedToml_eq_visit, lastSome?_visit,
    lastUnder_map fun key v => (Tree.ofToml origin v).hashed (order.under key), Option.bind_map]
  rfl

end

namespace Knob

/-- The value that an entry of a table of fields gives for a field. -/
def ofField? (k : Knob) (e : String × Toml.Value) : Option k.Value :=
  if e.1 = k.key then k.ofToml? e.2 else none

/-- The value that a table of fields gives for a field. -/
def ofSection? (k : Knob) : Toml.Value → Option k.Value
  | .table fields => lastSome? k.ofField? fields
  | _ => none

/-- The value that a document gives for a field. -/
def ofTable? (k : Knob) (table : Toml.Table) : Option k.Value :=
  (lastUnder tableKey table).bind k.ofSection?

end Knob

/-- The entries that a table of fields may have: a field with a value of its type, and anything
under another key in lower case. -/
inductive PlainField : String × Toml.Value → Prop
  | given (k : Knob) {value} : (k.ofToml? value).isSome → PlainField (k.key, value)
  | other {key value} : Text.lowercase key = key → (∀ k : Knob, key ≠ k.key) →
      PlainField (key, value)

/-- The entries that a document may have: a table of fields, and anything under another key in lower
case that is no path to it and, as a path, has no index. -/
inductive PlainEntry : String × Toml.Value → Prop
  | settings {fields} : (∀ f ∈ fields, PlainField f) → PlainEntry (tableKey, .table fields)
  | elsewhere {key value} : Text.lowercase key = key → key ≠ tableKey →
      (∀ path, KeyPath.parse key = .ok path →
        path.first ≠ tableKey ∧ ∀ i, .index i ∉ path.steps) →
      PlainEntry (key, value)

/-- Whether all entries of a document are plain. -/
def PlainTable (table : Toml.Table) : Prop := ∀ e ∈ table, PlainEntry e

theorem PlainField.isSome {k : Knob} {key : String} {v : Toml.Value} (h : PlainField (key, v))
    (own : key = k.key) : (k.ofToml? v).isSome := by
  cases h with
  | given k' typed => exact Knob.key_inj own ▸ typed
  | other lower unknown => exact absurd own (unknown k)

theorem PlainField.lowercase {e : String × Toml.Value} (h : PlainField e) :
    Text.lowercase e.1 = e.1 := by
  cases h with
  | given k => exact k.lowercase_key
  | other lower => exact lower

theorem PlainEntry.eq_table {v : Toml.Value} (h : PlainEntry (tableKey, v)) :
    ∃ fields, v = .table fields ∧ ∀ f ∈ fields, PlainField f := by
  generalize own : (tableKey, v) = e at h
  cases h with
  | settings plain => exact ⟨_, congrArg Prod.snd own, plain⟩
  | elsewhere _ other => exact absurd (congrArg Prod.fst own).symm other

/-! Whether a document is plain can be found out. -/

def isPlainField (f : String × Toml.Value) : Bool :=
  match Knob.ofKey? f.1 with
  | some k => (k.ofToml? f.2).isSome
  | none => Text.lowercase f.1 == f.1

theorem isPlainField_iff {f : String × Toml.Value} : isPlainField f = true ↔ PlainField f := by
  obtain ⟨key, v⟩ := f
  unfold isPlainField
  cases known : Knob.ofKey? key with
  | some k =>
    obtain rfl := Knob.ofKey?_eq_some_iff.1 known
    exact ⟨.given k, fun plain => plain.isSome rfl⟩
  | none =>
    refine beq_iff_eq.trans ⟨fun lower => ?_, PlainField.lowercase⟩
    exact .other lower (Knob.ofKey?_eq_none_iff.1 known)

def Step.isKey : Step → Bool
  | .key _ => true
  | .index _ => false

theorem all_isKey_iff {steps : List Step} :
    steps.all Step.isKey = true ↔ ∀ i, .index i ∉ steps := by
  rw [List.all_eq_true]
  constructor
  · intro keys i member
    exact absurd (keys _ member) nofun
  · intro noIndex step member
    cases step with
    | key => rfl
    | index i => exact absurd member (noIndex i)

def isPlainEntry (e : String × Toml.Value) : Bool :=
  if e.1 = tableKey then
    match e.2 with
    | .table fields => fields.all isPlainField
    | _ => false
  else
    Text.lowercase e.1 == e.1 &&
      match KeyPath.parse e.1 with
      | .ok path => path.first != tableKey && path.steps.all Step.isKey
      | .error _ => true

theorem isPlainEntry_iff {e : String × Toml.Value} : isPlainEntry e = true ↔ PlainEntry e := by
  obtain ⟨key, v⟩ := e
  unfold isPlainEntry
  by_cases own : key = tableKey
  · subst own
    rw [if_pos rfl]
    constructor
    · intro found
      cases v with
      | table fields =>
        exact .settings fun f hf => isPlainField_iff.1 (List.all_eq_true.1 found f hf)
      | _ => cases found
    · intro plain
      obtain ⟨fields, rfl, plainFields⟩ := plain.eq_table
      exact List.all_eq_true.2 fun f hf => isPlainField_iff.2 (plainFields f hf)
  · rw [if_neg own, Bool.and_eq_true, beq_iff_eq]
    constructor
    · rintro ⟨lower, found⟩
      refine .elsewhere lower own fun path parsed => ?_
      simp only [parsed, Bool.and_eq_true, bne_iff_ne] at found
      exact ⟨found.1, all_isKey_iff.1 found.2⟩
    · intro plain
      cases plain with
      | settings => exact absurd rfl own
      | elsewhere lower _ paths =>
        refine ⟨lower, ?_⟩
        cases parsed : KeyPath.parse key with
        | error fault => rfl
        | ok path =>
          obtain ⟨other, noIndex⟩ := paths path parsed
          exact Bool.and_eq_true_iff.2 ⟨bne_iff_ne.2 other, all_isKey_iff.2 noIndex⟩

instance : DecidablePred PlainEntry := fun _ => decidable_of_iff _ isPlainEntry_iff

instance (table : Toml.Table) : Decidable (PlainTable table) :=
  inferInstanceAs (Decidable (∀ e ∈ table, PlainEntry e))

/-- The key of the table of settings is a path to it. -/
theorem setKey_tableKey (t value : Tree) : t.setKey tableKey value = t.merge tableKey value := by
  have parsed : KeyPath.parse tableKey = .ok ⟨tableKey, []⟩ := rfl
  rw [Tree.setKey, lowercase_tableKey, parsed]
  simp only [Tree.setPath, Tree.set]

/-- An entry elsewhere leaves the table of fields as it is. -/
theorem entry?_setKey_of_elsewhere {key : String} (lower : Text.lowercase key = key)
    (other : key ≠ tableKey)
    (paths : ∀ path, KeyPath.parse key = .ok path →
      path.first ≠ tableKey ∧ ∀ i, .index i ∉ path.steps) (t value : Tree) :
    Tree.entry? tableKey (t.setKey key value) = t.entry? tableKey :=
  Tree.entry?_setKey_of_ne lower other (fun path parsed => (paths path parsed).1) t value

namespace Knob

variable {k : Knob} {order : Order} {origin : Option String}

/-- An entry of a table of fields changes what it stands for. -/
theorem within?_merge {key : String} {v : Toml.Value} (plain : PlainField (key, v)) (r : Tree) :
    k.within? (r.merge key ((Tree.ofToml origin v).hashed order)) =
      (k.ofMember? (key, (Tree.ofToml origin v).hashed order)).or (k.within? r) := by
  by_cases own : key = k.key
  · subst own
    obtain ⟨x, hx⟩ := Option.isSome_iff_exists.1 (plain.isSome rfl)
    have stands : k.ofTree? ((Tree.ofToml origin v).hashed order) = some x :=
      ofTree?_hashed_ofToml hx
    rw [within?, Tree.entry?_merge_self (lowercase_key k) (not_isTable_hashed_ofToml hx),
      Option.bind_some, ofMember?, if_pos rfl, stands, Option.some_or]
  · have other : k.key ≠ Text.lowercase key := by
      rw [plain.lowercase]
      exact fun same => own same.symm
    rw [within?, Tree.entry?_merge_of_ne other, ofMember?, if_neg own, Option.none_or, within?]

theorem lastSome?_ofMember?_hashedToml {fields : Toml.Table}
    (plain : ∀ f ∈ fields, PlainField f) :
    lastSome? k.ofMember? (hashedToml order origin fields) = lastSome? k.ofField? fields := by
  have given : ∀ f ∈ fields, f.1 = k.key → (k.ofToml? f.2).isSome :=
    fun f hf own => (plain f hf).isSome own
  calc lastSome? k.ofMember? (hashedToml order origin fields)
      = (lastUnder k.key fields).bind fun v =>
          k.ofTree? ((Tree.ofToml origin v).hashed (order.under k.key)) :=
        lastSome?_hashedToml k.key k.ofTree?
    _ = (lastUnder k.key fields).bind k.ofToml? := by
        cases last : lastUnder k.key fields with
        | none => rfl
        | some v =>
          obtain ⟨x, hx⟩ := Option.isSome_iff_exists.1 (given _ (mem_of_lastUnder last) rfl)
          rw [Option.bind_some, Option.bind_some, hx, ofTree?_hashed_ofToml hx]
    _ = lastSome? k.ofField? fields := (lastSome?_under given).symm

theorem within?_hashedToml {fields : Toml.Table} (plain : ∀ f ∈ fields, PlainField f) :
    k.within? (.table origin (hashedToml order origin fields)) = lastSome? k.ofField? fields :=
  (k.lastSome?_ofMember? origin nodup_keys_hashedToml).symm.trans
    (lastSome?_ofMember?_hashedToml plain)

theorem within?_mergeEntries {fields : Toml.Table} (plain : ∀ f ∈ fields, PlainField f)
    (r : Tree) :
    k.within? (r.mergeEntries (hashedToml order origin fields)) =
      (lastSome? k.ofField? fields).or (k.within? r) := by
  have step : ∀ e ∈ hashedToml order origin fields, ∀ r : Tree,
      k.within? (r.merge e.1 e.2) = (k.ofMember? e).or (k.within? r) := by
    apply forall_mem_hashedToml
    intro key v field r
    exact within?_merge (plain _ field) r
  rw [Tree.mergeEntries_eq_foldl, foldl_holds_last k.within? step,
    lastSome?_ofMember?_hashedToml plain]

/-- An entry of a document changes the fields that it gives. -/
theorem held?_setKey {key : String} {v : Toml.Value} (plain : PlainEntry (key, v)) (t : Tree) :
    k.held? (t.setKey key ((Tree.ofToml origin v).hashed order)) =
      (if key = tableKey then k.within? ((Tree.ofToml origin v).hashed order) else none).or
        (k.held? t) := by
  cases plain with
  | @settings fields plainFields =>
    rw [hashed_ofToml_table, setKey_tableKey, Tree.merge, lowercase_tableKey, held?,
      Tree.entry?_putEntry, if_pos rfl, Option.bind_some, within?_mergeEntries plainFields,
      if_pos rfl, within?_hashedToml plainFields, held?]
    cases t.entry? tableKey <;> rfl
  | elsewhere lower other paths =>
    rw [held?, entry?_setKey_of_elsewhere lower other paths, if_neg other, Option.none_or, held?]

/-- A document changes the fields that it gives. -/
theorem held?_addDocument {d : Document} (plain : PlainTable d.table) (t : Tree) :
    k.held? (t.addDocument order d) = (k.ofTable? d.table).or (k.held? t) := by
  have step : ∀ e ∈ hashedToml order d.origin d.table, ∀ t : Tree, k.held? (t.setKey e.1 e.2) =
      (if e.1 = tableKey then k.within? e.2 else none).or (k.held? t) := by
    apply forall_mem_hashedToml
    intro key v entry t
    exact held?_setKey (plain _ entry) t
  rw [Tree.addDocument, foldl_holds_last k.held? step, lastSome?_hashedToml tableKey k.within?,
    ofTable?]
  congr 1
  cases last : lastUnder tableKey d.table with
  | none => rfl
  | some v =>
    obtain ⟨fields, rfl, plainFields⟩ := (plain _ (mem_of_lastUnder last)).eq_table
    rw [Option.bind_some, Option.bind_some, hashed_ofToml_table, within?_hashedToml plainFields,
      ofSection?]

end Knob

theorem OnlyTable.setKey {key : String} {v : Toml.Value} (plain : PlainEntry (key, v))
    {order : Order} {origin : Option String} {t : Tree} (h : OnlyTable t) :
    OnlyTable (t.setKey key ((Tree.ofToml origin v).hashed order)) := by
  cases plain with
  | settings =>
    rw [hashed_ofToml_table, setKey_tableKey, Tree.merge, lowercase_tableKey]
    apply onlyTable_putEntry
    · apply Tree.isTable_mergeEntries
      cases found : t.entry? tableKey with
      | none => exact trivial
      | some r => exact (h r found).1
    · exact (h.keysDistinct_getD .fresh List.nodup_nil).mergeEntries _
  | elsewhere lower other paths =>
    intro r found
    exact h r ((entry?_setKey_of_elsewhere lower other paths t _).symm.trans found)

theorem OnlyTable.addDocument {d : Document} (plain : PlainTable d.table) (order : Order) {t : Tree}
    (h : OnlyTable t) : OnlyTable (t.addDocument order d) := by
  refine List.foldlRecOn (hashedToml order d.origin d.table) _ h fun t ht => ?_
  apply forall_mem_hashedToml
  intro key v entry
  exact ht.setKey (plain _ entry)

/-! ### The built-in document -/

/-- The document of the built-in settings gives the built-in value of every field. -/
theorem exists_builtIn : ∃ table, Toml.parse? builtInText = some table ∧ PlainTable table ∧
    ∀ k : Knob, k.ofTable? table = some (k.get {}) := by
  have checked : (Toml.parse? builtInText).any (fun table => PlainTable table ∧
      Knob.traceMatches.ofTable? table = some (false : Bool) ∧
      Knob.maxKnownNames.ofTable? table = some (32 : Size)) = true := by
    rw [Toml.parse?, builtInText, String.toList_join]
    decide +kernel
  obtain ⟨table, parsed, holds⟩ := (Option.any_eq_true ..).1 checked
  obtain ⟨plain, traceMatches, maxKnownNames⟩ := of_decide_eq_true holds
  refine ⟨table, parsed, plain, fun k => ?_⟩
  cases k with
  | traceMatches => exact traceMatches
  | maxKnownNames => exact maxKnownNames

def builtIn : Document := ⟨none, (Toml.parse? builtInText).getD []⟩

theorem readText_builtInText : readText none builtInText = .ok builtIn := by
  obtain ⟨table, parsed, -⟩ := exists_builtIn
  rw [readText, builtIn, parsed]
  rfl

theorem plainTable_builtIn : PlainTable builtIn.table := by
  obtain ⟨table, parsed, plain, -⟩ := exists_builtIn
  rw [builtIn, parsed]
  exact plain

theorem ofTable?_builtIn (k : Knob) : k.ofTable? builtIn.table = some (k.get {}) := by
  obtain ⟨table, parsed, -, given⟩ := exists_builtIn
  rw [builtIn, parsed]
  exact given k

end TreeSpec.Settings
