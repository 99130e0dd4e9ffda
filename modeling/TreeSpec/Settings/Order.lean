import TreeSpec.Entries
import TreeSpec.Settings.KeyPath

/-!
# Orders of tables

Tables are hashed. Whoever goes through the entries of a table meets each of them once, but in an
order that neither the keys nor the way the table was made decide, and that may change from one
table to the next. The orders are therefore an argument of everything that goes through a table.
-/

namespace TreeSpec.Settings

/-- An order for a tree: at each path to a table, some rearrangement of the entries. -/
structure Order where
  arrange (path : List String) {α : Type} (entries : List α) : List α
  perm (path : List String) {α : Type} (entries : List α) : (arrange path entries).Perm entries

namespace Order

def asPut : Order := ⟨fun _ _ entries => entries, fun _ _ entries => .refl entries⟩

def under (order : Order) (key : String) : Order :=
  ⟨fun path => order.arrange (key :: path), fun path => order.perm (key :: path)⟩

/-- The entries of a list as they are met in a table into which they were put. -/
def visit {κ α : Type} [DecidableEq κ] (order : Order) (entries : List (κ × α)) : List (κ × α) :=
  order.arrange [] (collect entries)

variable {κ α : Type} [DecidableEq κ] (order : Order) (entries : List (κ × α))

theorem nodup_keys_visit : ((order.visit entries).map Prod.fst).Nodup :=
  ((order.perm [] _).map Prod.fst).nodup_iff.2 (nodup_keys_collect entries)

theorem mem_of_mem_visit {e : κ × α} (h : e ∈ order.visit entries) : e ∈ entries :=
  mem_of_mem_collect ((order.perm [] _).mem_iff.1 h)

theorem visit_singleton (e : κ × α) : order.visit [e] = [e] :=
  List.perm_singleton.1 (order.perm [] [e])

theorem lookup_visit (key : κ) : (order.visit entries).lookup key = (collect entries).lookup key :=
  lookup_of_perm (order.perm [] _) (nodup_keys_collect entries) key

end Order

/-- The orders of the tables that loading goes through. -/
structure Orders where
  /-- The tables of the documents, which are numbered as they are merged. -/
  documents : Nat → Order
  /-- The table of all single values, which has their paths as its keys. -/
  overrides : Order
  /-- The tables of the single value with a path. -/
  values : KeyPath → Order
  fields : Order

def Orders.asPut : Orders := ⟨fun _ => .asPut, .asPut, fun _ => .asPut, .asPut⟩

end TreeSpec.Settings
