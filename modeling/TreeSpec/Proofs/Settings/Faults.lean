import TreeSpec.Proofs.Settings.Precedence

/-!
# Faults of layers

A list of layers may have several faults, and one of them is reported: that of the first single
value whose key is no path, or else that of the first file that cannot be taken, and only then what
is wrong with the merged settings. How files and single values are mixed makes no difference
(`load_fails_by_kind`). Neither do the orders of tables, unless it is the merged settings that are
wrong: of several wrong fields they decide which one is reported.
-/

namespace TreeSpec.Settings

open Layer

/-- The errors that loading ends with. A fault of one kind counts only where there is none of the
kinds before it, and the orders of tables count only for the last kind. -/
inductive Fails (orders : Orders) (files : Files) (layers : List Layer) : LoadError → Prop
  | key {e} : First KeyFault layers e → Fails orders files layers e
  | file {e} : (∀ layer ∈ layers, ∀ e', ¬ layer.KeyFault e') →
      First (FileFault files) layers e → Fails orders files layers e
  | shape {e} : (∀ layer ∈ layers, ∀ e', ¬ layer.KeyFault e') →
      (∀ layer ∈ layers, ∀ e', ¬ layer.FileFault files e') →
      decode orders.fields (merged orders files layers) = .error e →
      Fails orders files layers (.badShape e)

variable {orders : Orders} {files : Files} {layers : List Layer}

theorem load_of_fails {e : LoadError} (h : Fails orders files layers e) :
    load files layers orders = .error e := by
  cases h with
  | key first => exact load_of_key first
  | file keys first => exact load_of_file keys first
  | shape keys sound bad => rw [load_of_sound keys sound, bad]; rfl

theorem fails_of_load {e : LoadError} (h : load files layers orders = .error e) :
    Fails orders files layers e := by
  -- one of the three kinds is there, and what loading gives for it is the error
  rcases first_or_sound KeyFault layers with ⟨e', first⟩ | keys
  · obtain rfl := Except.error.inj (h.symm.trans (load_of_key first))
    exact .key first
  rcases first_or_sound (FileFault files) layers with ⟨e', first⟩ | sound
  · obtain rfl := Except.error.inj (h.symm.trans (load_of_file keys first))
    exact .file keys first
  rw [load_of_sound keys sound] at h
  cases shape : decode orders.fields (merged orders files layers) with
  | ok settings =>
    rw [shape] at h
    exact absurd h nofun
  | error fault =>
    rw [shape] at h
    obtain rfl := Except.error.inj h
    exact .shape keys sound shape

/-- Faults of keys and of files are found whatever the orders are. -/
theorem Fails.of_orders {e : LoadError} (h : Fails orders files layers e)
    (early : ∀ fault, e ≠ .badShape fault) (orders' : Orders) : Fails orders' files layers e := by
  cases h with
  | key first => exact .key first
  | file keys first => exact .file keys first
  | shape => exact absurd rfl (early _)

/-- Loading fails with the fault of the first single value whose key is no path. If there is none,
it fails with the fault of the first file that has one, and if there is none of these either, with
what is wrong with the merged settings. Layers in another order are loaded alike, as long as files
keep their order among themselves, and single values theirs; and as long as it is not the merged
settings that are wrong, tables may have other orders too. -/
theorem load_fails_by_kind (files : Files) (layers : List Layer) :
    (∀ orders e, load files layers orders = .error e ↔ Fails orders files layers e) ∧
      ∀ layers' : List Layer, layers'.filter isFile = layers.filter isFile →
        layers'.filter isOverride = layers.filter isOverride →
        (∀ orders, load files layers' orders = load files layers orders) ∧
        ∀ orders orders' e, load files layers orders = .error e → (∀ fault, e ≠ .badShape fault) →
          load files layers' orders' = .error e := by
  refine ⟨fun _ _ => ⟨fails_of_load, load_of_fails⟩, fun layers' sameFiles sameOverrides => ?_⟩
  have alike (orders : Orders) : load files layers' orders = load files layers orders :=
    load_congr sameFiles sameOverrides
  refine ⟨alike, fun orders orders' e failed early => ?_⟩
  rw [alike]
  exact load_of_fails ((fails_of_load failed).of_orders early orders')

/-- Bad keys behind bad files, a bad file among optional ones that are skipped, with a bad value
before and behind all files, and a bad value without bad files. -/
theorem load_fails_by_kind_mixed :
    let files : Files := [("bad.toml", "x = ".toUTF8), ("raw.toml", ⟨#[255]⟩)]
    let value : Tree := .scalar none (.boolean true)
    let badKeys : List Layer :=
      [.file "gone" true, .file "bad" true, .override "a.b" value, .override "a[" value,
        .override ".b" value]
    let badFiles : List Layer :=
      [.override "resolver" value, .file "gone" false, .file "raw" false, .file "bad" false,
        .file "gone" true]
    let sorted : List Layer :=
      [.file "gone" false, .file "raw" false, .file "bad" false, .file "gone" true,
        .override "resolver" value]
    let badValue : List Layer := [.override "resolver" value, .file "raw" false]
    (sorted.filter isFile = badFiles.filter isFile ∧
        sorted.filter isOverride = badFiles.filter isOverride) ∧
      (∀ orders, load files badKeys orders = .error (.badKey .noIndex)) ∧
      (∀ orders, load files badFiles orders = .error .notToml) ∧
      (∀ orders, load files sorted orders = .error .notToml) ∧
      (∀ orders, load files badValue orders =
        .error (.badShape (.notSettings (.boolean true)))) := by
  intro files value badKeys badFiles sorted badValue
  have goneSkipped : ∀ e, ¬ FileFault files (.file "gone" false) e := by
    have plain : Plain files (.file "gone" false) := .missing rfl
    exact plain.not_fileFault
  have found : findFile? files "raw" = some ("raw.toml", ⟨#[255]⟩) := rfl
  have unread : String.fromUTF8? ⟨#[255]⟩ = none := by decide
  have rawSkipped : ∀ e, ¬ FileFault files (.file "raw" false) e := by
    have skipped : readFile files "raw" false = .ok none := by simp [readFile, found, unread]
    exact not_fileFault_of_read skipped
  have badTaken : FileFault files (.file "bad" false) .notToml :=
    .noToml rfl (dif_pos "x = ".isValidUTF8) (Option.isNone_iff_eq_none.1 (by decide +kernel))
  have firstKey : First KeyFault badKeys (.badKey .noIndex) :=
    .later not_keyFault_file (.later not_keyFault_file
      (.later (not_keyFault_of_parse rfl) (.here (.noPath rfl))))
  have firstFile : First (FileFault files) badFiles .notToml :=
    .later not_fileFault_override (.later goneSkipped (.later rawSkipped (.here badTaken)))
  have sameFiles : sorted.filter isFile = badFiles.filter isFile := rfl
  have sameOverrides : sorted.filter isOverride = badFiles.filter isOverride := rfl
  have keys : ∀ layer ∈ badFiles, ∀ e, ¬ layer.KeyFault e := by
    simp only [badFiles, List.forall_mem_cons]
    exact ⟨not_keyFault_of_parse rfl, not_keyFault_file, not_keyFault_file, not_keyFault_file,
      not_keyFault_file, fun _ h => absurd h List.not_mem_nil⟩
  have valueKeys : ∀ layer ∈ badValue, ∀ e, ¬ layer.KeyFault e :=
    List.forall_mem_cons.2
      ⟨not_keyFault_of_parse rfl, List.forall_mem_singleton.2 not_keyFault_file⟩
  have valueFiles : ∀ layer ∈ badValue, ∀ e, ¬ layer.FileFault files e :=
    List.forall_mem_cons.2 ⟨not_fileFault_override, List.forall_mem_singleton.2 rawSkipped⟩
  have shape (orders : Orders) : decode orders.fields (merged orders files badValue) =
      .error (.notSettings (.boolean true)) := by
    have overrides : badValue.filterMap pathValue? = [(⟨"resolver", []⟩, value)] := rfl
    have hashed (order : Order) : value.hashed order = value :=
      Knob.hashed_of_typed (k := .traceMatches) rfl order
    have only (t : Tree) :
        Tree.entry? tableKey (t.setPath ⟨"resolver", []⟩ value) = some value := by
      rw [Tree.setPath, Tree.set, tableKey, Tree.entry?_merge_self (by decide) id]
    rw [merged, overrides, Tree.addOverrides, Order.visit_singleton, List.foldl_cons,
      List.foldl_nil]
    dsimp only
    rw [hashed, decode, only]
    rfl
  have failed (orders : Orders) : load files badFiles orders = .error .notToml :=
    ((load_fails_by_kind files badFiles).1 _ _).2 (.file keys firstFile)
  refine ⟨⟨sameFiles, sameOverrides⟩, fun orders => ?_, failed, fun orders => ?_, fun orders => ?_⟩
  · exact ((load_fails_by_kind files badKeys).1 _ _).2 (.key firstKey)
  · exact ((load_fails_by_kind files badFiles).2 sorted sameFiles sameOverrides).2 orders orders _
      (failed orders) (by rintro _ ⟨⟩)
  · exact ((load_fails_by_kind files badValue).1 _ _).2 (.shape valueKeys valueFiles (shape orders))

/-- Two wrong fields, of which the first one that is met is reported. -/
example :
    let fields : List (String × Tree) :=
      [(Knob.traceMatches.key, .array none []), (Knob.maxKnownNames.key, .array none [])]
    let backwards : Order := ⟨fun _ _ => List.reverse, fun _ _ => List.reverse_perm⟩
    decodeResolver .asPut (.table none fields) =
        .error (.wrongType "sequence" "a boolean" "resolver.trace_matches" none) ∧
      decodeResolver backwards (.table none fields) =
        .error (.wrongType "sequence" "an integer" "resolver.max_known_names" none) :=
  ⟨rfl, rfl⟩

end TreeSpec.Settings
