import TreeSpec.Proofs.Settings.Documents

/-!
# Reading layers

Single values and files are read in two passes over the same layers (`reads_overrides`,
`reads_documents`). Each pass has its own faults, ends with the first of them, and looks only at its
own layers; so only the order within each kind matters (`load_congr`). Layers without faults are
merged, and the settings are those of the merged tree (`load_of_sound`). Only there do the orders of
tables come in.
-/

namespace TreeSpec.Settings

/-! ### Passes that end with the first fault -/

/-- The fault of the first element of a list that has one. -/
inductive First (fault : α → ε → Prop) : List α → ε → Prop
  | here {x xs e} : fault x e → First fault (x :: xs) e
  | later {x xs e} : (∀ e', ¬ fault x e') → First fault xs e → First fault (x :: xs) e

theorem first_or_sound (fault : α → ε → Prop) (xs : List α) :
    (∃ e, First fault xs e) ∨ ∀ x ∈ xs, ∀ e, ¬ fault x e := by
  induction xs with
  | nil => exact .inr fun x hx => absurd hx List.not_mem_nil
  | cons x xs ih =>
    by_cases faulty : ∃ e, fault x e
    · obtain ⟨e, found⟩ := faulty
      exact .inl ⟨e, .here found⟩
    · have sound := not_exists.1 faulty
      rcases ih with ⟨e, first⟩ | rest
      · exact .inl ⟨e, .later sound first⟩
      · exact .inr (List.forall_mem_cons.2 ⟨sound, rest⟩)

/-- What a pass over a list does at its first element: it ends with the fault of the element, or it
goes on and adds what the element gives. -/
structure Reads (read : List α → Except ε (List β)) (fault : α → ε → Prop)
    (given : α → Option β) : Prop where
  nil : read [] = .ok []
  fails {x xs e} : fault x e → read (x :: xs) = .error e
  goesOn {x} (xs) : (∀ e, ¬ fault x e) → read (x :: xs) = (read xs).map ((given x).toList ++ ·)

namespace Reads

variable {read : List α → Except ε (List β)} {fault : α → ε → Prop} {given : α → Option β}
  {xs : List α}

theorem error_of_first (reads : Reads read fault given) {e : ε} (h : First fault xs e) :
    read xs = .error e := by
  induction h with
  | here found => exact reads.fails found
  | later sound _ ih =>
    rw [reads.goesOn _ sound, ih]
    rfl

theorem ok_of_sound (reads : Reads read fault given) (h : ∀ x ∈ xs, ∀ e, ¬ fault x e) :
    read xs = .ok (xs.filterMap given) := by
  induction xs with
  | nil => exact reads.nil
  | cons x xs ih =>
    obtain ⟨sound, rest⟩ := List.forall_mem_cons.1 h
    rw [reads.goesOn xs sound, ih rest]
    cases result : given x with
    | none => rw [List.filterMap_cons_none result]; rfl
    | some y => rw [List.filterMap_cons_some result]; rfl

/-- Elements without faults that give nothing may be left out. -/
theorem filter (reads : Reads read fault given) {p : α → Bool}
    (quiet : ∀ x, ¬ p x → (∀ e, ¬ fault x e) ∧ given x = none) (xs : List α) :
    read (xs.filter p) = read xs := by
  induction xs with
  | nil => rfl
  | cons x xs ih =>
    by_cases kept : p x
    · rw [List.filter_cons_of_pos kept]
      by_cases faulty : ∃ e, fault x e
      · obtain ⟨e, found⟩ := faulty
        rw [reads.fails found, reads.fails found]
      · have sound := not_exists.1 faulty
        rw [reads.goesOn _ sound, reads.goesOn _ sound, ih]
    · obtain ⟨sound, nothing⟩ := quiet x kept
      rw [List.filter_cons_of_neg kept, ih, reads.goesOn xs sound, nothing]
      exact congrFun Except.map_id.symm (read xs)

end Reads

/-! ### Faults of layers, and what layers give -/

/-- The document of the file that a name means, if the file exists and is one of TOML. -/
def documentOf? (files : Files) (name : String) : Option Document :=
  (findFile? files name).bind fun (origin, content) =>
    ((String.fromUTF8? content).bind Toml.parse?).map fun table => ⟨some origin, table⟩

namespace Layer

/-- Whether a layer is a file. -/
def isFile : Layer → Bool
  | .file .. => true
  | .override .. => false

/-- Whether a layer is a single value. -/
def isOverride : Layer → Bool
  | .file .. => false
  | .override .. => true

/-- The document of a layer that is a file. -/
def document? (files : Files) : Layer → Option Document
  | .file name _ => documentOf? files name
  | .override .. => none

/-- The path and the value of a layer that is a single value. -/
def pathValue? : Layer → Option (KeyPath × Tree)
  | .file .. => none
  | .override key value => (KeyPath.parse key).toOption.map (·, value)

/-- The fault of a single value: its key is no path. -/
inductive KeyFault : Layer → LoadError → Prop
  | noPath {key value fault} : KeyPath.parse key = .error fault →
      KeyFault (.override key value) (.badKey fault)

/-- The faults of a file. One that is required is missing or not UTF-8; one of any kind is there, is
UTF-8, and is not TOML. -/
inductive FileFault (files : Files) : Layer → LoadError → Prop
  | missing {name} : findFile? files name = none → FileFault files (.file name true) (.noFile name)
  | encoding {name origin content} : findFile? files name = some (origin, content) →
      String.fromUTF8? content = none → FileFault files (.file name true) .notUtf8
  | noToml {name required origin content text} : findFile? files name = some (origin, content) →
      String.fromUTF8? content = some text → Toml.parse? text = none →
      FileFault files (.file name required) .notToml

/-- Only single values have keys. -/
theorem not_keyFault_file {name : String} {required : Bool} (e : LoadError) :
    ¬ KeyFault (.file name required) e := by
  rintro ⟨⟩

/-- Only files have contents. -/
theorem not_fileFault_override {files : Files} {key : String} {value : Tree} (e : LoadError) :
    ¬ FileFault files (.override key value) e := by
  rintro ⟨⟩

end Layer

open Layer

variable {files : Files} {layers : List Layer}

theorem documentOf?_of_text {name origin text : String}
    (found : findFile? files name = some (origin, text.toUTF8)) :
    documentOf? files name = (Toml.parse? text).map fun table => ⟨some origin, table⟩ := by
  have decoded : String.fromUTF8? text.toUTF8 = some text := dif_pos text.isValidUTF8
  simp only [documentOf?, found, decoded, Option.bind_some]

theorem readFile_of_document {name : String} {d : Document} (required : Bool)
    (h : documentOf? files name = some d) : readFile files name required = .ok (some d) := by
  obtain ⟨⟨origin, content⟩, found, read⟩ := Option.bind_eq_some_iff.1 h
  obtain ⟨table, parsed, rfl⟩ := Option.map_eq_some_iff.1 read
  obtain ⟨text, decoded, parsed⟩ := Option.bind_eq_some_iff.1 parsed
  simp only [readFile, found, decoded, readText, parsed, Except.map]

theorem readFile_of_fault {name : String} {required : Bool} {e : LoadError}
    (h : FileFault files (.file name required) e) : readFile files name required = .error e := by
  cases h with
  | missing absent => rw [readFile, absent]; rfl
  | encoding found unread => simp only [readFile, found, unread, if_true]
  | noToml found decoded unread =>
    simp only [readFile, found, decoded, readText, unread, Except.map]

theorem not_fileFault_of_read {name : String} {required : Bool} {d : Option Document}
    (h : readFile files name required = .ok d) (e : LoadError) :
    ¬ FileFault files (.file name required) e := by
  intro fault
  exact absurd (h.symm.trans (readFile_of_fault fault)) nofun

theorem not_keyFault_of_parse {key : String} {value : Tree} {path : KeyPath}
    (h : KeyPath.parse key = .ok path) (e : LoadError) : ¬ KeyFault (.override key value) e := by
  rintro ⟨unread⟩
  exact absurd (h.symm.trans unread) nofun

/-- The cases are those of reading a file; where it fails, the file has a fault. -/
theorem readFile_of_sound {name : String} {required : Bool}
    (h : ∀ e, ¬ FileFault files (.file name required) e) :
    readFile files name required = .ok (documentOf? files name) := by
  cases found : findFile? files name with
  | none =>
    cases required with
    | true => exact absurd (.missing found) (h _)
    | false => rw [readFile, documentOf?, found]; rfl
  | some file =>
    obtain ⟨origin, content⟩ := file
    cases decoded : String.fromUTF8? content with
    | none =>
      cases required with
      | true => exact absurd (.encoding found decoded) (h _)
      | false => simp [readFile, documentOf?, found, decoded]
    | some text =>
      cases parsed : Toml.parse? text with
      | none => exact absurd (.noToml found decoded parsed) (h _)
      | some table => simp [readFile, documentOf?, found, decoded, readText, parsed, Except.map]

/-! ### The two passes -/

theorem reads_overrides : Reads readOverrides KeyFault pathValue? where
  nil := rfl
  fails found := by
    obtain ⟨unread⟩ := found
    rw [readOverrides, unread]
  goesOn {layer} layers sound := by
    cases layer with
    | file => exact congrFun Except.map_id.symm (readOverrides layers)
    | override key value =>
      cases parsed : KeyPath.parse key with
      | error fault => exact absurd (.noPath parsed) (sound _)
      | ok path =>
        rw [readOverrides, pathValue?, parsed]
        rfl

theorem reads_documents (files : Files) :
    Reads (readDocuments files) (FileFault files) (document? files) where
  nil := rfl
  fails {layer} _ _ found := by
    cases layer with
    | file => rw [readDocuments, readFile_of_fault found]
    | override => exact absurd found (not_fileFault_override _)
  goesOn {layer} layers sound := by
    cases layer with
    | file => rw [readDocuments, readFile_of_sound sound, document?]
    | override => exact congrFun Except.map_id.symm (readDocuments files layers)

/-! ### Loading -/

/-- The documents of layers without faults, behind that of the built-in settings. -/
def documents (files : Files) (layers : List Layer) : List Document :=
  builtIn :: layers.filterMap (document? files)

/-- The tree of layers without faults: all files in their order, then the single values. -/
def merged (orders : Orders) (files : Files) (layers : List Layer) : Tree :=
  (Tree.fresh.addDocuments orders (documents files layers)).addOverrides orders
    (layers.filterMap pathValue?)

variable {orders : Orders}

theorem load_of_key {e : LoadError} (h : First KeyFault layers e) :
    load files layers orders = .error e := by
  rw [load, reads_overrides.error_of_first h]
  rfl

theorem load_of_file {e : LoadError} (keys : ∀ layer ∈ layers, ∀ e', ¬ layer.KeyFault e')
    (h : First (FileFault files) layers e) : load files layers orders = .error e := by
  rw [load, reads_overrides.ok_of_sound keys, readText_builtInText,
    (reads_documents files).error_of_first h]
  rfl

theorem load_of_sound (keys : ∀ layer ∈ layers, ∀ e, ¬ layer.KeyFault e)
    (sound : ∀ layer ∈ layers, ∀ e, ¬ layer.FileFault files e) :
    load files layers orders =
      (decode orders.fields (merged orders files layers)).mapError .badShape := by
  rw [load, reads_overrides.ok_of_sound keys, readText_builtInText,
    (reads_documents files).ok_of_sound sound]
  rfl

theorem readOverrides_filter (layers : List Layer) :
    readOverrides (layers.filter isOverride) = readOverrides layers := by
  refine reads_overrides.filter (fun layer skipped => ?_) layers
  cases layer with
  | file => exact ⟨not_keyFault_file, rfl⟩
  | override => exact absurd rfl skipped

theorem readDocuments_filter (files : Files) (layers : List Layer) :
    readDocuments files (layers.filter isFile) = readDocuments files layers := by
  refine (reads_documents files).filter (fun layer skipped => ?_) layers
  cases layer with
  | file => exact absurd rfl skipped
  | override => exact ⟨not_fileFault_override, rfl⟩

/-- Layers are loaded alike if their files are the same and their single values are the same, each
in their order. -/
theorem load_congr {layers' : List Layer} (sameFiles : layers'.filter isFile = layers.filter isFile)
    (sameOverrides : layers'.filter isOverride = layers.filter isOverride) :
    load files layers' orders = load files layers orders := by
  have documents : readDocuments files layers' = readDocuments files layers := by
    rw [← readDocuments_filter, sameFiles, readDocuments_filter]
  have overrides : readOverrides layers' = readOverrides layers := by
    rw [← readOverrides_filter, sameOverrides, readOverrides_filter]
  rw [load, documents, overrides, load]

/-- Layers may be sorted into files and single values, each in their order. -/
theorem load_sorted (files : Files) (layers : List Layer) (orders : Orders) :
    load files (layers.filter isFile ++ layers.filter isOverride) orders =
      load files layers orders := by
  have noFile : ∀ layer : Layer, (layer.isFile && layer.isOverride) = false := by
    intro layer
    cases layer <;> rfl
  have noOverride : ∀ layer : Layer, (layer.isOverride && layer.isFile) = false := by
    intro layer
    rw [Bool.and_comm, noFile]
  have sameFiles : (layers.filter isFile ++ layers.filter isOverride).filter isFile =
      layers.filter isFile := by
    simp [List.filter_filter, noFile]
  have sameOverrides : (layers.filter isFile ++ layers.filter isOverride).filter isOverride =
      layers.filter isOverride := by
    simp [List.filter_filter, noOverride]
  exact load_congr sameFiles sameOverrides

end TreeSpec.Settings
