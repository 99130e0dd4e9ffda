import TreeSpec.Settings.Order
import TreeSpec.Text.Lowercase

/-!
# Trees of settings

The layers of settings are merged into one tree of tables, arrays and scalars. Tables are
merged key by key at any depth; anything else replaces what was there. Keys do not
distinguish capital and small letters, so where two keys of a table differ in nothing else, it
depends on the order of the table which of them comes last. Every value knows the file that it
came from, but a table that merging has built belongs to no file.
-/

namespace TreeSpec.Settings

inductive IntegerKind where
  | signed
  | unsigned
  | wideSigned
  | wideUnsigned
deriving DecidableEq, Repr

inductive Scalar where
  | nil
  | boolean (b : Bool)
  | integer (kind : IntegerKind) (n : Int)
  | float (x : Float)
  | string (s : String)

/-- A value, with the file that it came from. -/
inductive Tree where
  | scalar (origin : Option String) (value : Scalar)
  | array (origin : Option String) (elements : List Tree)
  | table (origin : Option String) (entries : List (String × Tree))

namespace Tree

def nil : Tree := .scalar none .nil

def fresh : Tree := .table none []

def entry? (key : String) : Tree → Option Tree
  | .table _ entries => entries.lookup key
  | _ => none

def putEntry (t : Tree) (key : String) (value : Tree) : Tree :=
  match t with
  | .table origin entries => .table origin (TreeSpec.putEntry key value entries)
  | _ => .table none [(key, value)]

mutual

/-- The tree with its tables hashed: each of them has its entries in the order in which they are
met. Tables inside arrays are never gone through. -/
def hashed (order : Order) : Tree → Tree
  | .table origin entries => .table origin (order.visit (hashedEntries order entries))
  | t => t

def hashedEntries (order : Order) : List (String × Tree) → List (String × Tree)
  | [] => []
  | (key, value) :: rest => (key, value.hashed (order.under key)) :: hashedEntries order rest

end

mutual

/-- The tree as a table with a value under a key, in lower case: a table is merged into
what is there, anything else replaces it. -/
def merge (t : Tree) (key : String) (value : Tree) : Tree :=
  let key := Text.lowercase key
  match value with
  | .table _ entries => t.putEntry key (mergeEntries ((t.entry? key).getD fresh) entries)
  | value => t.putEntry key value

/-- The tree with entries merged into it one by one. Without entries it stays as it is. -/
def mergeEntries (t : Tree) : List (String × Tree) → Tree
  | [] => t
  | (key, value) :: rest => mergeEntries (merge t key value) rest

end

/-- The position that an index means in an array; a negative one counts from the end. -/
def position (i : Int) (length : Nat) : Nat :=
  if 0 ≤ i then i.toNat else length - i.natAbs

def elements : Tree → List Tree
  | .array _ elements => elements
  | _ => []

/-- The file of an array; any other tree gives way to an array of no file. -/
def arrayOrigin : Tree → Option String
  | .array origin _ => origin
  | _ => none

/-- The tree as an array with an element changed, filled up with nothing as far as it is
too short. -/
def changeElement (t : Tree) (i : Int) (f : Tree → Tree) : Tree :=
  let p := position i t.elements.length
  let filled := t.elements ++ List.replicate (p + 1 - t.elements.length) nil
  .array t.arrayOrigin (filled.modify p f)

def changeEntry (t : Tree) (key : String) (f : Tree → Tree) : Tree :=
  let key := Text.lowercase key
  t.putEntry key (f ((t.entry? key).getD nil))

/-- The tree with a value at the end of a path. Whatever is missing on the way is made,
and whatever is in the way is replaced. -/
def set (t : Tree) (value : Tree) : Step → List Step → Tree
  | .key name, [] => t.merge name value
  | .index i, [] => t.changeElement i fun _ => value
  | .key name, next :: steps => t.changeEntry name fun t => t.set value next steps
  | .index i, next :: steps => t.changeElement i fun t => t.set value next steps

def setPath (t : Tree) (path : KeyPath) (value : Tree) : Tree :=
  t.set value (.key path.first) path.steps

/-- The tree with a value under a key of a file, which is a path if its lower-case form can
be read as one. -/
def setKey (t : Tree) (key : String) (value : Tree) : Tree :=
  match KeyPath.parse (Text.lowercase key) with
  | .ok path => t.setPath path value
  | .error _ => t.merge key value

end Tree

end TreeSpec.Settings
