import TreeSpec.Entries
import TreeSpec.Toml.Value

/-!
# Tables under construction

While a document is read, its tables are open to further keys. How a table came about
decides by what means it may still be extended: a table of its own line only by the lines
below it, a table that a key with points made only by such keys, and a table that the
header of another one made also by a header of its own.
-/

namespace TreeSpec.Toml

inductive Standing where
  /-- By a header of its own, or as the whole document. -/
  | header
  /-- By a header of a table inside it. -/
  | implied
  /-- By a key with points. -/
  | dotted
deriving DecidableEq, Repr

/-- A value, an open table, or an array of tables of which the last is open. -/
inductive Node where
  | value (v : Value)
  | table (standing : Standing) (entries : List (String × Node))
  | tables (elements : List (List (String × Node)))

mutual

def Node.toValue : Node → Value
  | .value v => v
  | .table _ entries => .table (entriesToTable entries)
  | .tables elements => .array (elementsToValues elements)

def entriesToTable : List (String × Node) → Table
  | [] => []
  | (key, node) :: rest => (key, node.toValue) :: entriesToTable rest

def elementsToValues : List (List (String × Node)) → List Value
  | [] => []
  | entries :: rest => .table (entriesToTable entries) :: elementsToValues rest

end

structure OpenTable where
  standing : Standing
  entries : List (String × Node)

namespace OpenTable

def empty : OpenTable := ⟨.header, []⟩

def put (t : OpenTable) (key : String) (node : Node) : OpenTable :=
  { t with entries := putEntry key node t.entries }

def drop (t : OpenTable) (key : String) : OpenTable :=
  { t with entries := t.entries.filter fun e => e.1 != key }

/-- Changes the table at the end of a path, making the tables on the way that are missing.
A path leads into the last table of an array. The path of a key with points, which
`byKey` says, must not enter tables that have a header of their own. -/
def change (byKey : Bool) (f : OpenTable → Option OpenTable) :
    (path : List String) → OpenTable → Option OpenTable
  | [], t => f t
  | key :: path, t =>
    match t.entries.lookup key with
    | none => do
      let made ← change byKey f path ⟨if byKey then .dotted else .implied, []⟩
      return t.put key (.table made.standing made.entries)
    | some (.value _) => none
    | some (.table standing entries) =>
      if byKey && standing == .header then none
      else do
        let changed ← change byKey f path ⟨standing, entries⟩
        return t.put key (.table changed.standing changed.entries)
    | some (.tables elements) => do
      let changed ← change byKey f path ⟨.header, ← elements.getLast?⟩
      return t.put key (.tables (elements.dropLast ++ [changed.entries]))

/-- The table with a new entry. The part of a key before its last point, which `byKey` says
there is, has to lead to a table made by such keys; without it the table must be another. -/
def insertNew (byKey : Bool) (key : String) (v : Value) (t : OpenTable) : Option OpenTable :=
  if (t.standing == .dotted) != byKey then none
  else if (t.entries.lookup key).isSome then none
  else some (t.put key (.value v))

def addValue (path : List String) (key : String) (v : Value) : OpenTable → Option OpenTable :=
  change true (insertNew (!path.isEmpty) key v) path

/-- The table with a table in it that has a header of its own. That table may have been
implied before, and then moves to the end, but must not exist otherwise. -/
def insertTable (key : String) (t : OpenTable) : Option OpenTable :=
  match t.entries.lookup key with
  | none => some (t.put key (.table .header []))
  | some (.table .implied entries) => some ((t.drop key).put key (.table .header entries))
  | some _ => none

def openTable (path : List String) (key : String) : OpenTable → Option OpenTable :=
  change false (insertTable key) path

def insertElement (key : String) (t : OpenTable) : Option OpenTable :=
  match t.entries.lookup key with
  | none => some (t.put key (.tables [[]]))
  | some (.tables elements) => some (t.put key (.tables (elements ++ [[]])))
  | some _ => none

def openElement (path : List String) (key : String) : OpenTable → Option OpenTable :=
  change false (insertElement key) path

end OpenTable

end TreeSpec.Toml
