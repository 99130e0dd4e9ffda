/-!
# Namespaces

A namespace binds names to values, each name at most once. Look-up is exact: names that
differ in a single character are different names.
-/

namespace TreeSpec

/-- Bindings of distinct names. Their order carries no meaning. -/
structure Namespace (γ : Type u) where
  bindings : List (String × γ)
  distinct : (bindings.map Prod.fst).Nodup

namespace Namespace

def empty : Namespace γ := ⟨[], by simp⟩

def lookup (ns : Namespace γ) (name : String) : Option γ := ns.bindings.lookup name

def names (ns : Namespace γ) : List String := ns.bindings.map Prod.fst

/-- The bound names in the order of their code points. -/
def sortedNames (ns : Namespace γ) : List String := ns.names.mergeSort (· ≤ ·)

def unbind (ns : Namespace γ) (name : String) : Namespace γ where
  bindings := ns.bindings.filter fun b => b.1 != name
  distinct := by
    have sub := (List.filter_sublist (p := fun b => b.1 != name) (l := ns.bindings)).map Prod.fst
    exact ns.distinct.sublist sub

/-- The namespace with a name bound to a value, whatever it was bound to before. -/
def bind (ns : Namespace γ) (name : String) (value : γ) : Namespace γ where
  bindings := (name, value) :: (ns.unbind name).bindings
  distinct := by
    rw [List.map_cons, List.nodup_cons]
    refine ⟨?_, (ns.unbind name).distinct⟩
    simp [unbind]

def modify (ns : Namespace γ) (name : String) (f : γ → γ) : Namespace γ :=
  match ns.lookup name with
  | none => ns
  | some value => ns.bind name (f value)

/-- The namespace of a list of bindings; of two with one name the later one counts. -/
def ofList (bindings : List (String × γ)) : Namespace γ :=
  bindings.foldl (fun ns b => ns.bind b.1 b.2) empty

theorem lookup_bind (ns : Namespace γ) (name other : String) (value : γ) :
    (ns.bind name value).lookup other = if other = name then some value else ns.lookup other := by
  simp only [lookup, bind, unbind, List.lookup_cons]
  by_cases h : other = name
  · simp [h]
  · have hne : (other == name) = false := by simpa using h
    simp only [hne, if_neg h]
    induction ns.bindings with
    | nil => rfl
    | cons b rest ih =>
      obtain ⟨k, v⟩ := b
      by_cases hk : k = name
      · have : (other == k) = false := by simpa [hk] using h
        simp [hk, List.lookup_cons, ih, hne]
      · simp [hk, List.lookup_cons, ih]

end Namespace

end TreeSpec
