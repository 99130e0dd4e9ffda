import TreeSpec.Proofs.Settings.Reading

/-!
# Precedence of layers

Layers whose values are of the right types are always loaded, and each field is settled on its own:
by the last single value for it, or else by the last file that gives it, or else by the built-in
settings (`load_by_precedence`). So a layer wins over all before it only if it is a single value, or
if no single value for the field stands before it (`load_next_layer`). The orders of tables make no
difference to any of this.
-/

namespace TreeSpec.Settings

/-! ### What layers give -/

namespace Knob

/-- The value that a layer gives for a field as a single value. -/
def ofOverride? (k : Knob) : Layer → Option k.Value
  | .file .. => none
  | .override key value => if key = k.dotted then k.ofLeaf? value else none

/-- The value that a layer gives for a field as a file. -/
def ofFile? (k : Knob) (files : Files) : Layer → Option k.Value
  | .file name _ => (documentOf? files name).bind fun d => k.ofTable? d.table
  | .override .. => none

end Knob

namespace Layer

/-- The layers whose values are of the right types: an optional file that does not exist, a file
with a plain document, and a single value for a field. -/
inductive Plain (files : Files) : Layer → Prop
  | missing {name} : findFile? files name = none → Plain files (.file name false)
  | file {name required d} : documentOf? files name = some d → PlainTable d.table →
      Plain files (.file name required)
  | override (k : Knob) {value} : (k.ofLeaf? value).isSome → Plain files (.override k.dotted value)

end Layer

variable {files : Files} {layers : List Layer} {layer : Layer}

theorem plain_of_text (text : String) {name origin : String} {required : Bool}
    (found : findFile? files name = some (origin, text.toUTF8))
    (plain : (Toml.parse? text).any (PlainTable ·) = true) :
    Layer.Plain files (.file name required) := by
  obtain ⟨table, parsed, plain⟩ := (Option.any_eq_true ..).1 plain
  have document : documentOf? files name = some ⟨some origin, table⟩ := by
    rw [documentOf?_of_text found, parsed, Option.map_some]
  exact .file document (of_decide_eq_true plain)

theorem ofFile?_of_text {name origin text : String} {required : Bool}
    (found : findFile? files name = some (origin, text.toUTF8)) (k : Knob) :
    k.ofFile? files (.file name required) = (Toml.parse? text).bind k.ofTable? := by
  rw [Knob.ofFile?, documentOf?_of_text found, Option.bind_map]
  rfl

/-! ### Reading the layers -/

theorem Layer.Plain.not_keyFault (h : layer.Plain files) (e : LoadError) : ¬ layer.KeyFault e := by
  cases h with
  | missing | file => exact Layer.not_keyFault_file e
  | override k => exact not_keyFault_of_parse k.parse_dotted e

theorem Layer.Plain.not_fileFault (h : layer.Plain files) (e : LoadError) :
    ¬ layer.FileFault files e := by
  cases h with
  | @missing name missing =>
    have skipped : readFile files name false = .ok none := by
      rw [readFile, missing]
      rfl
    exact not_fileFault_of_read skipped e
  | @file name required d found =>
    exact not_fileFault_of_read (readFile_of_document required found) e
  | override => exact Layer.not_fileFault_override e

/-! ### Merging the layers -/

/-- Whether a path with its value gives a field a value of its type. -/
def PlainOverride (e : KeyPath × Tree) : Prop :=
  ∃ k : Knob, e.1 = k.path ∧ (k.ofLeaf? e.2).isSome

theorem plainOverride_of_plain (plain : ∀ layer ∈ layers, layer.Plain files) :
    ∀ e ∈ layers.filterMap Layer.pathValue?, PlainOverride e := by
  intro e he
  obtain ⟨layer, hl, read⟩ := List.mem_filterMap.1 he
  cases plain layer hl with
  | missing | file => exact absurd read nofun
  | override k typed =>
    rw [Layer.pathValue?, k.parse_dotted] at read
    obtain rfl := Option.some.inj read
    exact ⟨k, rfl, typed⟩

section
variable {overrides : List (KeyPath × Tree)} (orders : Orders)

/-- The values that are met are merged as they are, and of those for a field only the last one is
met. -/
theorem held?_addOverrides (plain : ∀ e ∈ overrides, PlainOverride e) (k : Knob) (t : Tree) :
    k.held? (t.addOverrides orders overrides) =
      (lastSome? k.ofPathValue? overrides).or (k.held? t) := by
  have step : ∀ e ∈ orders.overrides.visit overrides, ∀ t : Tree,
      k.held? (t.setPath e.1 (e.2.hashed (orders.values e.1))) =
        (k.ofPathValue? e).or (k.held? t) := by
    rintro ⟨path, value⟩ he t
    obtain ⟨k', rfl, typed⟩ := plain _ (orders.overrides.mem_of_mem_visit _ he)
    rw [Knob.hashed_of_typed typed]
    exact Knob.held?_setPath typed t
  have given : ∀ e ∈ overrides, e.1 = k.path → (k.ofLeaf? e.2).isSome := by
    intro e he own
    obtain ⟨k', path, typed⟩ := plain e he
    exact Knob.path_inj (path.symm.trans own) ▸ typed
  have last : lastSome? k.ofPathValue? (orders.overrides.visit overrides) =
      lastSome? k.ofPathValue? overrides :=
    (lastSome?_visit orders.overrides overrides k.path k.ofLeaf?).trans
      (lastSome?_under given).symm
  rw [Tree.addOverrides, foldl_holds_last k.held? step, last]

theorem OnlyTable.addOverrides (plain : ∀ e ∈ overrides, PlainOverride e) {t : Tree}
    (h : OnlyTable t) : OnlyTable (t.addOverrides orders overrides) := by
  refine List.foldlRecOn (orders.overrides.visit overrides) _ h ?_
  rintro t ht ⟨path, value⟩ he
  obtain ⟨k, rfl, -⟩ := plain _ (orders.overrides.mem_of_mem_visit _ he)
  exact ht.setPath _ k

end

section
variable {documents : List Document} (orders : Orders)

theorem held?_addDocuments (plain : ∀ d ∈ documents, PlainTable d.table) (k : Knob) (t : Tree) :
    k.held? (t.addDocuments orders documents) =
      (lastSome? (fun d => k.ofTable? d.table) documents).or (k.held? t) := by
  have step : ∀ e ∈ documents.zipIdx, ∀ t : Tree,
      k.held? (t.addDocument (orders.documents e.2) e.1) =
        (k.ofTable? e.1.table).or (k.held? t) :=
    fun e he t => Knob.held?_addDocument (plain e.1 (List.fst_mem_of_mem_zipIdx he)) t
  have numbered : lastSome? (fun e : Document × Nat => k.ofTable? e.1.table) documents.zipIdx =
      lastSome? (fun d => k.ofTable? d.table) documents := by
    have given := lastSome?_map (fun d : Document => k.ofTable? d.table) Prod.fst documents.zipIdx
    rw [← given, List.zipIdx_map_fst]
  rw [Tree.addDocuments, foldl_holds_last k.held? step, numbered]

theorem OnlyTable.addDocuments (plain : ∀ d ∈ documents, PlainTable d.table) {t : Tree}
    (h : OnlyTable t) : OnlyTable (t.addDocuments orders documents) :=
  List.foldlRecOn documents.zipIdx _ h fun _ ht e he =>
    ht.addDocument (plain e.1 (List.fst_mem_of_mem_zipIdx he)) _

end

theorem plainTable_of_plain (plain : ∀ layer ∈ layers, layer.Plain files) :
    ∀ d ∈ layers.filterMap (Layer.document? files), PlainTable d.table := by
  intro d hd
  obtain ⟨layer, hl, read⟩ := List.mem_filterMap.1 hd
  cases plain layer hl with
  | missing missing =>
    rw [Layer.document?, documentOf?, missing] at read
    exact absurd read.symm (Option.some_ne_none d)
  | file found table =>
    rw [Layer.document?, found] at read
    exact Option.some.inj read ▸ table
  | override => exact absurd read.symm (Option.some_ne_none d)

/-- What the layers give for a field: the last single value, or else the value of the last file that
has one, or else the built-in value. -/
def settled (files : Files) (layers : List Layer) (k : Knob) : k.Value :=
  ((lastSome? k.ofOverride? layers).or (lastSome? (k.ofFile? files) layers)).getD (k.get {})

theorem lastSome?_pathValue (plain : ∀ layer ∈ layers, layer.Plain files) (k : Knob) :
    lastSome? k.ofPathValue? (layers.filterMap Layer.pathValue?) =
      lastSome? k.ofOverride? layers := by
  rw [lastSome?_filterMap]
  refine lastSome?_congr fun layer hl => ?_
  cases plain layer hl with
  | missing | file => rfl
  | @override k' value =>
    rw [Layer.pathValue?, k'.parse_dotted, Knob.ofOverride?]
    by_cases own : k' = k
    · subst own
      rw [if_pos rfl]
      exact if_pos rfl
    · rw [if_neg fun same => own (Knob.dotted_inj same)]
      exact if_neg fun same => own (Knob.path_inj same)

theorem lastSome?_document (files : Files) (layers : List Layer) (k : Knob) :
    lastSome? (fun d => k.ofTable? d.table) (layers.filterMap (Layer.document? files)) =
      lastSome? (k.ofFile? files) layers := by
  rw [lastSome?_filterMap]
  exact lastSome?_congr fun layer _ => by cases layer <;> rfl

theorem onlyTable_fresh : OnlyTable Tree.fresh := by
  intro r found
  cases found

/-- Plain layers are loaded. -/
theorem load_of_plain (plain : ∀ layer ∈ layers, layer.Plain files) (orders : Orders) :
    load files layers orders = .ok (ofKnobs (settled files layers)) := by
  have overrides := plainOverride_of_plain plain
  have tables : ∀ d ∈ documents files layers, PlainTable d.table :=
    List.forall_mem_cons.2 ⟨plainTable_builtIn, plainTable_of_plain plain⟩
  have files' (k : Knob) : lastSome? (fun d => k.ofTable? d.table) (documents files layers) =
      some ((lastSome? (k.ofFile? files) layers).getD (k.get {})) := by
    rw [documents, lastSome?_cons, lastSome?_document, ofTable?_builtIn, Option.or_some]
  have held (k : Knob) := calc
    k.held? (merged orders files layers)
      = (lastSome? k.ofOverride? layers).or
          ((lastSome? (fun d => k.ofTable? d.table) (documents files layers)).or
            (k.held? .fresh)) := by
        rw [merged, held?_addOverrides orders overrides, lastSome?_pathValue plain,
          held?_addDocuments orders tables]
    _ = some (settled files layers k) := by
        rw [files', Option.some_or, Option.or_some, settled]
        cases lastSome? k.ofOverride? layers <;> rfl
  have only : OnlyTable (merged orders files layers) :=
    (onlyTable_fresh.addDocuments orders tables).addOverrides orders overrides
  rw [load_of_sound (fun l hl => (plain l hl).not_keyFault) fun l hl => (plain l hl).not_fileFault,
    decode_of_held only held]
  rfl

/-! ### Precedence -/

/-- Plain layers are loaded, whatever the orders of tables are. Each field has the value of the last
single value for it, or else of the last file that gives it, or else the built-in one; sorting the
layers changes nothing. -/
theorem load_by_precedence (plain : ∀ layer ∈ layers, layer.Plain files) :
    ∃ s, (∀ orders, load files layers orders = .ok s) ∧
      (∀ k : Knob, k.get s =
        ((lastSome? k.ofOverride? layers).or (lastSome? (k.ofFile? files) layers)).getD
          (k.get {})) ∧
      ∀ orders, load files (layers.filter Layer.isFile ++ layers.filter Layer.isOverride) orders =
        .ok s :=
  ⟨ofKnobs (settled files layers), load_of_plain plain, get_ofKnobs _,
    fun orders => (load_sorted files layers orders).trans (load_of_plain plain orders)⟩

/-- Single values on both sides of a file that gives the same fields and a table elsewhere. -/
theorem load_by_precedence_mixed :
    let text := "[x.resolver]\ny = 0\n[resolver]\nmax_known_names = 7\nnote = [1]\n"
    let files : Files := [("u.toml", text.toUTF8)]
    let layers : List Layer :=
      [.override "resolver.trace_matches" (.scalar none (.boolean true)),
        .override "resolver.max_known_names" (.scalar none (.integer .signed 5)),
        .file "u" true, .file "missing" false,
        .override "resolver.trace_matches" (.scalar none (.boolean false))]
    (∀ layer ∈ layers, layer.Plain files) ∧
      ∀ orders, load files layers orders = .ok { traceMatches := false, maxKnownNames := 5 } := by
  intro text files layers
  have file : Layer.Plain files (.file "u" true) := plain_of_text text rfl (by decide +kernel)
  have plain : ∀ layer ∈ layers, layer.Plain files := by
    simp only [layers, List.forall_mem_cons]
    exact ⟨.override .traceMatches rfl, .override .maxKnownNames rfl, file, .missing rfl,
      .override .traceMatches rfl, fun _ h => absurd h List.not_mem_nil⟩
  obtain ⟨s, loaded, settled, -⟩ := load_by_precedence plain
  have traceMatches : s.traceMatches = false := settled .traceMatches
  have maxKnownNames : s.maxKnownNames = 5 := settled .maxKnownNames
  refine ⟨plain, fun orders => (loaded orders).trans (congrArg _ ?_)⟩
  cases s
  simp_all

/-- What one more layer changes. A single value gives its field the value it has. A file gives a
field its value only as long as no single value for the field stands before it; then the last of
these stays. A field that the layer does not give stays as it was. -/
theorem load_next_layer (plain : ∀ l ∈ layers ++ [layer], l.Plain files) :
    ∃ s s', (∀ orders, load files layers orders = .ok s) ∧
      (∀ orders, load files (layers ++ [layer]) orders = .ok s') ∧
      ∀ k : Knob,
        (∀ x, k.ofOverride? layer = some x → k.get s' = x) ∧
        (∀ x, k.ofFile? files layer = some x →
          k.get s' = (lastSome? k.ofOverride? layers).getD x) ∧
        (k.ofOverride? layer = none → k.ofFile? files layer = none → k.get s' = k.get s) := by
  have before : ∀ l ∈ layers, l.Plain files := fun l hl => plain l (List.mem_append_left _ hl)
  refine ⟨_, _, load_of_plain before, load_of_plain plain, fun k => ?_⟩
  have override := lastSome?_append (f := k.ofOverride?) layers [layer]
  have file := lastSome?_append (f := k.ofFile? files) layers [layer]
  rw [lastSome?_singleton] at override file
  simp only [get_ofKnobs, settled, override, file]
  refine ⟨fun x given => ?_, fun x given => ?_, fun noOverride noFile => ?_⟩
  · rw [given]
    rfl
  · have noOverride : k.ofOverride? layer = none := by
      cases layer with
      | file => rfl
      | override => exact absurd given nofun
    rw [noOverride, given]
    cases lastSome? k.ofOverride? layers <;> rfl
  · rw [noOverride, noFile, Option.none_or, Option.none_or]

/-! A file that gives one field, behind a single value for the same field. -/

def lateText : String := "[resolver]\nmax_known_names = 7\n"

def lateFiles : Files := [("u.toml", lateText.toUTF8)]

def lateFile : Layer := .file "u.toml" true

def earlyOverride : Layer :=
  .override "resolver.max_known_names" (.scalar none (.integer .signed 5))

theorem plain_late : ∀ layer ∈ [earlyOverride] ++ [lateFile], layer.Plain lateFiles :=
  List.forall_mem_cons.2 ⟨.override .maxKnownNames rfl, List.forall_mem_singleton.2
    (plain_of_text lateText rfl (by decide +kernel))⟩

theorem ofFile?_lateFile (k : Knob) :
    k.ofFile? lateFiles lateFile = (Toml.parse? lateText).bind k.ofTable? :=
  ofFile?_of_text rfl k

theorem maxKnownNames_lateFile :
    Knob.maxKnownNames.ofFile? lateFiles lateFile = some (7 : Size) := by
  rw [ofFile?_lateFile]
  decide +kernel

theorem traceMatches_lateFile :
    Knob.traceMatches.ofFile? lateFiles lateFile = (none : Option Bool) := by
  rw [ofFile?_lateFile]
  decide +kernel

/-- The single value before the file stays, and the field that the file does not give too. -/
theorem load_next_layer_late :
    (∀ layer ∈ [earlyOverride] ++ [lateFile], layer.Plain lateFiles) ∧
      ∃ s s', (∀ orders, load lateFiles [earlyOverride] orders = .ok s) ∧
        (∀ orders, load lateFiles ([earlyOverride] ++ [lateFile]) orders = .ok s') ∧
        s'.maxKnownNames = 5 ∧ s'.traceMatches = s.traceMatches := by
  obtain ⟨s, s', before, after, next⟩ := load_next_layer plain_late
  have file : s'.maxKnownNames = 5 := (next .maxKnownNames).2.1 7 maxKnownNames_lateFile
  have unchanged : s'.traceMatches = s.traceMatches :=
    (next .traceMatches).2.2 rfl traceMatches_lateFile
  exact ⟨plain_late, s, s', before, after, file, unchanged⟩

/-- A later file does not win over an earlier single value. -/
theorem late_file_loses :
    (∀ layer ∈ [earlyOverride] ++ [lateFile], layer.Plain lateFiles) ∧
      Knob.maxKnownNames.ofFile? lateFiles lateFile = some 7 ∧
      ∀ orders, load lateFiles ([earlyOverride] ++ [lateFile]) orders =
        .ok { maxKnownNames := 5 } := by
  have value (k : Knob) :
      settled lateFiles ([earlyOverride] ++ [lateFile]) k = k.get { maxKnownNames := 5 } := by
    simp only [settled, lastSome?_append, lastSome?_singleton]
    cases k with
    | traceMatches =>
      rw [traceMatches_lateFile]
      rfl
    | maxKnownNames =>
      rw [maxKnownNames_lateFile]
      rfl
  refine ⟨plain_late, maxKnownNames_lateFile, fun orders => ?_⟩
  rw [load_of_plain plain_late orders, funext value]
  rfl

end TreeSpec.Settings
