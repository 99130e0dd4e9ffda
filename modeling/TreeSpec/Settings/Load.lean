import TreeSpec.Settings.Decode
import TreeSpec.Toml.Document

/-!
# Loading settings

Settings are loaded from layers: TOML files, which may be optional, and single values with
a key. All files are merged over the built-in settings first, in the order of the list, and
then the single values, of which only the last one of each path counts. Faults are found in
the same way: first in the keys of the single values, then in the files, then in the merged
settings.

Files are merged in the order of the list. But the entries of one file, and the single values
with different paths, are kept in hashed tables and merged in the order of these.
-/

namespace TreeSpec.Settings

inductive Layer where
  | file (name : String) (required : Bool)
  | override (key : String) (value : Tree)

/-- Why settings cannot be loaded. Only a required file has to exist and to be UTF-8, but every
file that is there and is UTF-8 has to be TOML. -/
inductive LoadError where
  | badKey (fault : PathFault)
  | noFile (name : String)
  | notUtf8
  | notToml
  | badShape (error : ShapeError)

/-- There is no text for a file that is not TOML. -/
def LoadError.message? : LoadError → Option String
  | .badKey fault => some fault.message
  | .noFile name => some ("configuration file \"" ++ name ++ "\" not found")
  | .notUtf8 => some "stream did not contain valid UTF-8"
  | .notToml => none
  | .badShape error => some error.message

abbrev Files := List (String × ByteArray)

/-- The empty name and the two names of directories take no extension. -/
def withExtension? (name : String) : Option String :=
  if name = "" ∨ name = "." ∨ name = ".." then none else some (name ++ ".toml")

/-- The file that a name means, with its name as found: the file of just that name, or
else the one with the extension added. -/
def findFile? (files : Files) (name : String) : Option (String × ByteArray) :=
  match files.lookup name with
  | some content => some (name, content)
  | none =>
    match withExtension? name with
    | none => none
    | some extended => (files.lookup extended).map fun content => (extended, content)

structure Document where
  origin : Option String
  table : Toml.Table

def readText (origin : Option String) (text : String) : Except LoadError Document :=
  match Toml.parse? text with
  | none => .error .notToml
  | some table => .ok ⟨origin, table⟩

/-- The document of a file. An optional file that is missing or not UTF-8 has none. -/
def readFile (files : Files) (name : String) (required : Bool) :
    Except LoadError (Option Document) :=
  match findFile? files name with
  | none => if required then .error (.noFile name) else .ok none
  | some (origin, content) =>
    match String.fromUTF8? content with
    | none => if required then .error .notUtf8 else .ok none
    | some text => (readText (some origin) text).map some

mutual

/-- The tree of a value of TOML. Dates and times are texts. -/
def Tree.ofToml (origin : Option String) : Toml.Value → Tree
  | .string s => .scalar origin (.string s)
  | .integer n => .scalar origin (.integer .signed n)
  | .float x => .scalar origin (.float x)
  | .boolean b => .scalar origin (.boolean b)
  | .moment m => .scalar origin (.string (String.ofList m.text))
  | .array elements => .array origin (treesOfToml origin elements)
  | .table entries => .table origin (entriesOfToml origin entries)

def treesOfToml (origin : Option String) : List Toml.Value → List Tree
  | [] => []
  | v :: rest => Tree.ofToml origin v :: treesOfToml origin rest

def entriesOfToml (origin : Option String) : Toml.Table → List (String × Tree)
  | [] => []
  | (key, v) :: rest => (key, Tree.ofToml origin v) :: entriesOfToml origin rest

end

/-- The document of the built-in settings. -/
def builtInText : String := String.join [
  "# Built-in defaults for the refyre reader.\n",
  "# User configuration files are layered on top of these values.\n",
  "\n",
  "[resolver]\n",
  "# Emit a trace event for every expression that matches the grammar.\n",
  "trace_matches = false\n",
  "# Maximum number of bound names listed in an unknown-variable error.\n",
  "max_known_names = 32\n"]

/-- The entries of a table of TOML in the order in which they are met. -/
def hashedToml (order : Order) (origin : Option String) (table : Toml.Table) :
    List (String × Tree) :=
  order.visit (Tree.hashedEntries order (entriesOfToml origin table))

def Tree.addDocument (order : Order) (t : Tree) (d : Document) : Tree :=
  (hashedToml order d.origin d.table).foldl (fun t (key, value) => t.setKey key value) t

def Tree.addDocuments (orders : Orders) (t : Tree) (documents : List Document) : Tree :=
  documents.zipIdx.foldl (fun t (d, number) => t.addDocument (orders.documents number) d) t

/-- The tree with single values merged into it. They are kept by their paths, so that of two with
the same path only the later one is left. -/
def Tree.addOverrides (orders : Orders) (t : Tree) (overrides : List (KeyPath × Tree)) : Tree :=
  (orders.overrides.visit overrides).foldl
    (fun t (path, value) => t.setPath path (value.hashed (orders.values path))) t

def readOverrides : List Layer → Except LoadError (List (KeyPath × Tree))
  | [] => .ok []
  | .file .. :: rest => readOverrides rest
  | .override key value :: rest =>
    match KeyPath.parse key with
    | .error fault => .error (.badKey fault)
    | .ok path => (readOverrides rest).map ((path, value) :: ·)

def readDocuments (files : Files) : List Layer → Except LoadError (List Document)
  | [] => .ok []
  | .override .. :: rest => readDocuments files rest
  | .file name required :: rest =>
    match readFile files name required with
    | .error e => .error e
    | .ok document => (readDocuments files rest).map (document.toList ++ ·)

/-- The settings that the layers give over the built-in ones. -/
def load (files : Files) (layers : List Layer) (orders : Orders := .asPut) :
    Except LoadError Settings := do
  let overrides ← readOverrides layers
  let builtIn ← readText none builtInText
  let documents ← readDocuments files layers
  let layered := Tree.fresh.addDocuments orders (builtIn :: documents)
  (decode orders.fields (layered.addOverrides orders overrides)).mapError .badShape

end TreeSpec.Settings
