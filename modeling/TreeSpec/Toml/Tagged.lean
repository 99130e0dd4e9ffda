import TreeSpec.Toml.Value

/-!
# Tagged moments

A moment may also be given as a table whose first key is a tag: the value under the tag is
the text of the moment, and whatever else stands in the table does not count. A table with
the tag further on is an ordinary table.
-/

namespace TreeSpec.Toml

/-- The key that tags the text of a moment. -/
def momentTag : String := "$__toml_private_datetime"

/-- The value under the tag, when it is the first key of a table. -/
def tagged? : Table → Option Value
  | (key, v) :: _ => if key = momentTag then some v else none
  | [] => none

def Value.moment? : Value → Option Moment
  | .string s => Moment.parse? s
  | _ => none

mutual

/-- The value with every tagged table replaced by its moment, unless one of them has none. -/
def Value.untag? : Value → Option Value
  | .array elements => (untagElements? elements).map .array
  | .table entries =>
    match tagged? entries with
    | some v => v.moment?.map .moment
    | none => (untagEntries? entries).map .table
  | v => some v

def untagElements? : List Value → Option (List Value)
  | [] => some []
  | v :: rest =>
    match v.untag?, untagElements? rest with
    | some v, some values => some (v :: values)
    | _, _ => none

def untagEntries? : Table → Option Table
  | [] => some []
  | (key, v) :: rest =>
    match v.untag?, untagEntries? rest with
    | some v, some entries => some ((key, v) :: entries)
    | _, _ => none

end

/-- The table of a document with every tagged table replaced. A document is no moment, so
that its own first key must not be the tag. -/
def untagDocument? (entries : Table) : Option Table :=
  match tagged? entries with
  | some _ => none
  | none => untagEntries? entries

end TreeSpec.Toml
