import TreeSpec.Settings.Tree

/-!
# What merging changes

A value that is merged into a tree, or set at the end of a path, changes one entry of the tree:
the one whose key it has in lower case (`entry?_merge_of_ne`, `entry?_setPath_of_ne`). A run of
such changes leaves what the last of them that concerns an entry has given it
(`foldl_holds_last`). Where a run goes through a table, at most one of them does, whatever the order
of the table is (`lastSome?_visit`).
-/

namespace TreeSpec

/-- The last of the values that `f` gives in a list. -/
def lastSome? (f : α → Option β) (xs : List α) : Option β := xs.reverse.findSome? f

section
variable {f : α → Option β}

theorem lastSome?_append (xs ys : List α) :
    lastSome? f (xs ++ ys) = (lastSome? f ys).or (lastSome? f xs) := by
  rw [lastSome?, List.reverse_append, List.findSome?_append]
  rfl

theorem lastSome?_singleton (x : α) : lastSome? f [x] = f x := by
  simp [lastSome?]

theorem lastSome?_cons (x : α) (xs : List α) :
    lastSome? f (x :: xs) = (lastSome? f xs).or (f x) := by
  rw [← List.singleton_append, lastSome?_append, lastSome?_singleton]

theorem lastSome?_congr {g : α → Option β} {xs : List α} (h : ∀ x ∈ xs, f x = g x) :
    lastSome? f xs = lastSome? g xs := by
  induction xs with
  | nil => rfl
  | cons x xs ih =>
    rw [lastSome?_cons, lastSome?_cons, h x List.mem_cons_self,
      ih fun y hy => h y (List.mem_cons_of_mem x hy)]

end

theorem lastSome?_filterMap (f : β → Option γ) (g : α → Option β) (xs : List α) :
    lastSome? f (xs.filterMap g) = lastSome? (fun x => (g x).bind f) xs := by
  induction xs with
  | nil => rfl
  | cons x xs ih =>
    rw [lastSome?_cons, ← ih]
    cases given : g x with
    | none => rw [List.filterMap_cons_none given, Option.bind_none, Option.or_none]
    | some y => rw [List.filterMap_cons_some given, lastSome?_cons, Option.bind_some]

theorem lastSome?_map (f : β → Option γ) (g : α → β) (xs : List α) :
    lastSome? f (xs.map g) = lastSome? (fun x => f (g x)) xs := by
  rw [← List.filterMap_eq_map, lastSome?_filterMap]
  rfl

/-- If every step keeps what is held unless it has a value of its own, then a run holds the last
of these values. -/
theorem foldl_holds_last (held : σ → Option β) {step : σ → α → σ} {f : α → Option β}
    {xs : List α} (h : ∀ x ∈ xs, ∀ s, held (step s x) = (f x).or (held s)) (s : σ) :
    held (xs.foldl step s) = (lastSome? f xs).or (held s) := by
  induction xs generalizing s with
  | nil => rfl
  | cons x xs ih =>
    rw [List.foldl_cons, ih fun y hy => h y (List.mem_cons_of_mem x hy),
      h x List.mem_cons_self, lastSome?_cons, Option.or_assoc]

/-- The last value under a key. -/
def lastUnder [DecidableEq κ] (key : κ) (entries : List (κ × α)) : Option α :=
  lastSome? (fun e => if e.1 = key then some e.2 else none) entries

section
variable [DecidableEq κ] {key : κ} {entries : List (κ × α)}

theorem mem_of_lastUnder {value : α} (h : lastUnder key entries = some value) :
    (key, value) ∈ entries := by
  obtain ⟨e, he, given⟩ := List.exists_of_findSome?_eq_some h
  split at given
  · rename_i own
    obtain rfl := Option.some.inj given
    exact own ▸ List.mem_reverse.1 he
  · cases given

/-- Where a value is given under a key whenever it is there, the last given one is that of the last
value there. -/
theorem lastSome?_under {f : α → Option β} (given : ∀ e ∈ entries, e.1 = key → (f e.2).isSome) :
    lastSome? (fun e => if e.1 = key then f e.2 else none) entries =
      (lastUnder key entries).bind f := by
  induction entries with
  | nil => rfl
  | cons e rest ih =>
    obtain ⟨here, behind⟩ := List.forall_mem_cons.1 given
    rw [lastUnder, lastSome?_cons, lastSome?_cons, ih behind, lastUnder]
    by_cases own : e.1 = key
    · obtain ⟨x, hx⟩ := Option.isSome_iff_exists.1 (here own)
      simp only [if_pos own]
      cases later : lastSome? (fun e => if e.1 = key then some e.2 else none) rest with
      | none => rfl
      | some v =>
        obtain ⟨y, hy⟩ := Option.isSome_iff_exists.1 (behind _ (mem_of_lastUnder later) rfl)
        simp only [Option.bind_some, Option.some_or, hy]
    · simp only [if_neg own, Option.or_none]

theorem lastUnder_map (g : κ → α → β) :
    lastUnder key (entries.map fun e => (e.1, g e.1 e.2)) =
      (lastUnder key entries).map (g key) := by
  induction entries with
  | nil => rfl
  | cons e rest ih =>
    rw [lastUnder] at ih
    rw [List.map_cons, lastUnder, lastUnder, lastSome?_cons, lastSome?_cons, ih, lastUnder,
      Option.map_or]
    by_cases own : e.1 = key
    · rw [if_pos own, if_pos own, Option.map_some, own]
    · rw [if_neg own, if_neg own, Option.map_none]

/-- A table has the last value that was put under a key. -/
theorem lookup_collect : (collect entries).lookup key = lastUnder key entries := by
  have step : ∀ e ∈ entries, ∀ table : List (κ × α), (putEntry e.1 e.2 table).lookup key =
      (if e.1 = key then some e.2 else none).or (table.lookup key) := by
    intro e _ table
    rw [lookup_putEntry]
    by_cases own : e.1 = key
    · rw [if_pos own, if_pos own.symm, Option.some_or]
    · rw [if_neg own, if_neg fun same => own same.symm, Option.none_or]
  exact (foldl_holds_last (fun table => table.lookup key) step []).trans Option.or_none

/-- Where keys differ, the last value under a key is the only one. -/
theorem lastSome?_of_nodup (distinct : (entries.map Prod.fst).Nodup) (key : κ)
    (f : α → Option β) :
    lastSome? (fun e => if e.1 = key then f e.2 else none) entries =
      (entries.lookup key).bind f := by
  induction entries with
  | nil => rfl
  | cons e rest ih =>
    obtain ⟨k, v⟩ := e
    obtain ⟨fresh, distinct⟩ := List.nodup_cons.1 distinct
    rw [lastSome?_cons, ih distinct]
    by_cases own : k = key
    · subst own
      have absent : rest.lookup k = none := by
        apply List.lookup_eq_none_iff.2
        intro e he
        exact bne_iff_ne.2 fun same => fresh (List.mem_map.2 ⟨e, he, same.symm⟩)
      rw [absent, if_pos rfl, List.lookup_cons_self]
      rfl
    · have other : (key == k) = false := beq_eq_false_iff_ne.2 fun same => own same.symm
      simp only [if_neg own, Option.or_none, List.lookup_cons, other]

end

/-- Whatever the order of a table is, what it gives under a key is what the last value that was put
there gives. -/
theorem lastSome?_visit {κ α : Type} [DecidableEq κ] (order : Settings.Order)
    (entries : List (κ × α)) (key : κ) (f : α → Option β) :
    lastSome? (fun e => if e.1 = key then f e.2 else none) (order.visit entries) =
      (lastUnder key entries).bind f := by
  rw [lastSome?_of_nodup (order.nodup_keys_visit entries), order.lookup_visit, lookup_collect]

namespace Text

/-- Characters of ASCII become small by themselves, whatever stands around them. -/
theorem lowerFrom_append_of_ascii {run : List Char} (ascii : ∀ c ∈ run, c.toNat < 0x80)
    (before rest : List Char) :
    lowerFrom before (run ++ rest) =
      run.map Char.toLower ++ lowerFrom (run.reverse ++ before) rest := by
  induction run generalizing before with
  | nil => rfl
  | cons c run ih =>
    have low : c.toNat < 0x80 := ascii c List.mem_cons_self
    have notSigma : c ≠ 'Σ' := by
      rintro rfl
      exact absurd low (by decide)
    rw [List.cons_append, lowerFrom, if_neg notSigma, lowerChar, if_pos low,
      ih (fun d hd => ascii d (List.mem_cons_of_mem c hd))]
    simp

/-- The ASCII characters that a text in lower case starts with are in lower case. -/
theorem lowercase_of_ascii {text : String} {run rest : List Char}
    (split : text.toList = run ++ rest) (ascii : ∀ c ∈ run, c.toNat < 0x80)
    (h : lowercase text = text) : lowercase (String.ofList run) = String.ofList run := by
  have lower : run.map Char.toLower ++ lowerFrom (run.reverse ++ []) rest = run ++ rest := by
    rw [← lowerFrom_append_of_ascii ascii, ← split]
    simpa [lowercase] using congrArg String.toList h
  have same : run.map Char.toLower = run := (List.append_inj lower (by simp)).1
  have alone := lowerFrom_append_of_ascii ascii [] []
  rw [List.append_nil, same] at alone
  simp [lowercase, alone, lowerFrom]

end Text

namespace Settings

theorem toNat_lt_of_isIdentifierChar {c : Char} (h : isIdentifierChar c = true) :
    c.toNat < 0x80 := by
  delta isIdentifierChar Char.isAlphanum Char.isAlpha Char.isUpper Char.isLower Char.isDigit at h
  simp only [Bool.or_eq_true, Bool.and_eq_true, decide_eq_true_eq, beq_iff_eq, ge_iff_le,
    UInt32.le_iff_toNat_le, Char.reduceVal, UInt32.reduceToNat] at h
  rcases h with (((letter | digit) | rfl) | rfl) | rfl
  · rw [Char.toNat]
    omega
  · rw [Char.toNat]
    omega
  all_goals decide

theorem KeyPath.first_of_parse {text : String} {path : KeyPath} (h : parse text = .ok path) :
    path.first = String.ofList (text.toList.takeWhile isIdentifierChar) := by
  unfold parse at h
  dsimp only at h
  split at h
  · cases h
  · cases steps : readSteps text.toList.length (text.toList.dropWhile isIdentifierChar) with
    | error fault => simp [steps, bind, Except.bind] at h
    | ok steps' =>
      simp only [steps, bind, Except.bind, pure, Except.pure, Except.ok.injEq] at h
      rw [← h]

/-- A path in lower case starts with a key in lower case. -/
theorem KeyPath.lowercase_first {text : String} {path : KeyPath}
    (lower : Text.lowercase text = text) (h : parse text = .ok path) :
    Text.lowercase path.first = path.first := by
  rw [first_of_parse h]
  have split : text.toList = text.toList.takeWhile isIdentifierChar ++
    text.toList.dropWhile isIdentifierChar := List.takeWhile_append_dropWhile.symm
  refine Text.lowercase_of_ascii split (fun c hc => ?_) lower
  exact toNat_lt_of_isIdentifierChar (List.all_eq_true.1 List.all_takeWhile c hc)

namespace Tree

/-- Whether a tree is a table. -/
def IsTable : Tree → Prop
  | .table .. => True
  | _ => False

theorem isTable_putEntry (t : Tree) (key : String) (value : Tree) :
    (t.putEntry key value).IsTable := by
  cases t <;> exact trivial

/-- Whether a tree has no key twice, if it is a table. -/
def KeysDistinct : Tree → Prop
  | .table _ entries => (entries.map Prod.fst).Nodup
  | _ => True

theorem KeysDistinct.putEntry {t : Tree} (h : t.KeysDistinct) (key : String) (value : Tree) :
    (t.putEntry key value).KeysDistinct := by
  cases t with
  | table origin entries => exact nodup_keys_putEntry key value h
  | scalar | array => exact List.nodup_cons.2 ⟨List.not_mem_nil, List.nodup_nil⟩

theorem entry?_putEntry (t : Tree) (key other : String) (value : Tree) :
    entry? other (t.putEntry key value) = if other = key then some value else t.entry? other := by
  cases t with
  | table origin entries => exact lookup_putEntry key other value entries
  | _ => exact lookup_putEntry key other value []

/-- Merging puts a value under the key in lower case. Unless it is a table, it is put there as it
is. -/
theorem merge_eq_putEntry (t : Tree) (key : String) (value : Tree) :
    ∃ v, t.merge key value = t.putEntry (Text.lowercase key) v ∧ (¬ value.IsTable → v = value) := by
  cases value with
  | table origin entries => exact ⟨_, by rw [merge], fun other => absurd trivial other⟩
  | scalar origin value => exact ⟨_, by simp only [merge], fun _ => rfl⟩
  | array origin elements => exact ⟨_, by simp only [merge], fun _ => rfl⟩

theorem isTable_merge (t : Tree) (key : String) (value : Tree) : (t.merge key value).IsTable := by
  obtain ⟨v, merged, _⟩ := merge_eq_putEntry t key value
  rw [merged]
  exact isTable_putEntry t _ v

theorem KeysDistinct.merge {t : Tree} (h : t.KeysDistinct) (key : String) (value : Tree) :
    (t.merge key value).KeysDistinct := by
  obtain ⟨v, merged, _⟩ := merge_eq_putEntry t key value
  rw [merged]
  exact h.putEntry _ v

theorem entry?_merge_of_ne {key other : String} (h : other ≠ Text.lowercase key) (t value : Tree) :
    entry? other (t.merge key value) = t.entry? other := by
  obtain ⟨v, merged, _⟩ := merge_eq_putEntry t key value
  rw [merged, entry?_putEntry, if_neg h]

theorem entry?_merge_self {key : String} {value : Tree} (lower : Text.lowercase key = key)
    (h : ¬ value.IsTable) (t : Tree) : entry? key (t.merge key value) = some value := by
  obtain ⟨v, merged, same⟩ := merge_eq_putEntry t key value
  rw [merged, entry?_putEntry, if_pos lower.symm, same h]

theorem mergeEntries_eq_foldl (t : Tree) (entries : List (String × Tree)) :
    mergeEntries t entries = entries.foldl (fun t e => t.merge e.1 e.2) t := by
  induction entries generalizing t with
  | nil => rw [mergeEntries, List.foldl_nil]
  | cons e entries ih => rw [mergeEntries, ih, List.foldl_cons]

theorem isTable_mergeEntries {t : Tree} (h : t.IsTable) (entries : List (String × Tree)) :
    (mergeEntries t entries).IsTable := by
  rw [mergeEntries_eq_foldl]
  exact List.foldlRecOn entries _ h fun t _ e _ => isTable_merge t e.1 e.2

theorem KeysDistinct.mergeEntries {t : Tree} (h : t.KeysDistinct)
    (entries : List (String × Tree)) : (t.mergeEntries entries).KeysDistinct := by
  rw [mergeEntries_eq_foldl]
  exact List.foldlRecOn entries _ h fun _ ht e _ => ht.merge e.1 e.2

/-- A path that starts with another key leaves an entry as it is. -/
theorem entry?_setPath_of_ne {path : KeyPath} {other : String}
    (h : other ≠ Text.lowercase path.first) (t value : Tree) :
    entry? other (t.setPath path value) = t.entry? other := by
  rw [setPath]
  cases path.steps with
  | nil => rw [set, entry?_merge_of_ne h]
  | cons step steps => rw [set, changeEntry, entry?_putEntry, if_neg h]

/-- A key of a file, in lower case, leaves an entry as it is unless the key, read as a path if it
is one, starts with the key of the entry. -/
theorem entry?_setKey_of_ne {key other : String} (lower : Text.lowercase key = key)
    (plain : key ≠ other) (path : ∀ path, KeyPath.parse key = .ok path → path.first ≠ other)
    (t value : Tree) : entry? other (t.setKey key value) = t.entry? other := by
  rw [setKey, lower]
  split
  · rename_i p parsed
    apply entry?_setPath_of_ne
    rw [KeyPath.lowercase_first lower parsed]
    exact (path p parsed).symm
  · apply entry?_merge_of_ne
    rw [lower]
    exact plain.symm

end Tree

end Settings

end TreeSpec
