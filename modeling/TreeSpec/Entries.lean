/-!
# Entries

Tables as lists of keys and values. Every key occurs once when tables are only changed by
`putEntry`; the order is that in which the keys came first. As long as every key occurs once, the
order does not matter for looking up a value (`lookup_of_perm`).
-/

namespace TreeSpec

def putEntry [DecidableEq κ] (key : κ) (value : α) : List (κ × α) → List (κ × α)
  | [] => [(key, value)]
  | (k, v) :: rest => if k = key then (key, value) :: rest else (k, v) :: putEntry key value rest

theorem lookup_putEntry [DecidableEq κ] (key other : κ) (value : α) (entries : List (κ × α)) :
    (putEntry key value entries).lookup other =
      if other = key then some value else entries.lookup other := by
  induction entries with
  | nil => by_cases h : other = key <;> simp [putEntry, h]
  | cons e rest ih =>
    obtain ⟨k, v⟩ := e
    by_cases hk : k = key
    · by_cases h : other = key
      · simp [putEntry, hk, h]
      · have : (other == key) = false := by simpa using h
        simp [putEntry, hk, h, List.lookup_cons, this]
    · by_cases h : other = k
      · have : other ≠ key := fun e => hk (h ▸ e)
        simp [putEntry, hk, h]
      · have : (other == k) = false := by simpa using h
        simp [putEntry, hk, List.lookup_cons, this, ih]

theorem mem_of_mem_putEntry [DecidableEq κ] {key : κ} {value : α} {entries : List (κ × α)}
    {e : κ × α} (h : e ∈ putEntry key value entries) : e = (key, value) ∨ e ∈ entries := by
  induction entries with
  | nil => exact .inl (List.mem_singleton.1 h)
  | cons f rest ih =>
    rw [putEntry] at h
    split at h
    · exact (List.mem_cons.1 h).imp_right (List.mem_cons_of_mem _)
    · rcases List.mem_cons.1 h with first | later
      · exact .inr (first ▸ List.mem_cons_self)
      · exact (ih later).imp_right (List.mem_cons_of_mem _)

theorem nodup_keys_putEntry [DecidableEq κ] (key : κ) (value : α) {entries : List (κ × α)}
    (h : (entries.map Prod.fst).Nodup) : ((putEntry key value entries).map Prod.fst).Nodup := by
  induction entries with
  | nil => exact List.nodup_cons.2 ⟨List.not_mem_nil, List.nodup_nil⟩
  | cons f rest ih =>
    obtain ⟨fresh, distinct⟩ := List.nodup_cons.1 h
    rw [putEntry]
    split
    · rename_i same
      exact List.nodup_cons.2 ⟨same ▸ fresh, distinct⟩
    · rename_i other
      refine List.nodup_cons.2 ⟨fun twice => ?_, ih distinct⟩
      obtain ⟨e, he, same⟩ := List.mem_map.1 twice
      rcases mem_of_mem_putEntry he with rfl | old
      · exact other same.symm
      · exact fresh (same ▸ List.mem_map_of_mem old)

/-- The table of the entries of a list, put into it one after the other: of those with the same key
the last one stays. -/
def collect [DecidableEq κ] (entries : List (κ × α)) : List (κ × α) :=
  entries.foldl (fun table e => putEntry e.1 e.2 table) []

theorem nodup_keys_collect [DecidableEq κ] (entries : List (κ × α)) :
    ((collect entries).map Prod.fst).Nodup :=
  List.foldlRecOn (motive := fun table : List (κ × α) => (table.map Prod.fst).Nodup)
    entries _ List.nodup_nil fun _ distinct e _ => nodup_keys_putEntry e.1 e.2 distinct

theorem mem_of_mem_collect [DecidableEq κ] {entries : List (κ × α)} {e : κ × α}
    (h : e ∈ collect entries) : e ∈ entries := by
  refine List.foldlRecOn (motive := fun table => ∀ e ∈ table, e ∈ entries) entries _
    (fun e he => absurd he List.not_mem_nil) (fun table within e he e' he' => ?_) e h
  rcases mem_of_mem_putEntry he' with rfl | old
  · exact he
  · exact within e' old

theorem lookup_eq_some_iff_mem [DecidableEq κ] {entries : List (κ × α)}
    (distinct : (entries.map Prod.fst).Nodup) {key : κ} {value : α} :
    entries.lookup key = some value ↔ (key, value) ∈ entries := by
  induction entries with
  | nil => exact iff_of_false nofun List.not_mem_nil
  | cons e rest ih =>
    obtain ⟨k, v⟩ := e
    obtain ⟨fresh, behind⟩ := List.nodup_cons.1 distinct
    rw [List.mem_cons, ← ih behind, List.lookup_cons]
    by_cases own : key = k
    · subst own
      have once : rest.lookup key ≠ some value := by
        intro found
        exact fresh (List.mem_map.2 ⟨_, (ih behind).1 found, rfl⟩)
      simp [once, eq_comm]
    · have other : (key == k) = false := beq_eq_false_iff_ne.2 own
      simp [other, own]

/-- Tables with the same entries give the same values. -/
theorem lookup_of_perm [DecidableEq κ] {entries others : List (κ × α)} (same : entries.Perm others)
    (distinct : (others.map Prod.fst).Nodup) (key : κ) :
    entries.lookup key = others.lookup key := by
  apply Option.ext
  intro value
  rw [lookup_eq_some_iff_mem distinct, ← same.mem_iff]
  exact lookup_eq_some_iff_mem ((same.map Prod.fst).nodup_iff.2 distinct)

end TreeSpec
