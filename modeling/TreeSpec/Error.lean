/-!
# Errors of the reader

What can go wrong when a line token is made or a variable reference is resolved. Every
cause carries the input at fault, and `ReaderError.message` is its text for people.
-/

namespace TreeSpec

/-- Why a token or a resolution was refused. -/
inductive ReaderError where
  | invalidArgument (argument value : String)
  | invalidExpression (expression reason : String)
  /-- A reference is well formed, but its name is not bound; `known` are names that are. -/
  | unknownVariable (name : String) (known : List String)
  | typeMismatch (name found : String)
deriving DecidableEq, Repr

def listNames (names : List String) : String :=
  if names.isEmpty then "none" else ", ".intercalate names

def ReaderError.message : ReaderError → String
  | .invalidArgument argument value => "invalid " ++ argument ++ ": " ++ value
  | .invalidExpression expression reason =>
    "expression `" ++ expression ++ "` isn't a valid expression: " ++ reason
  | .unknownVariable name known =>
    "`" ++ name ++ "` is not a recognized variable (known: " ++ listNames known ++ ")"
  | .typeMismatch name found =>
    "variable `" ++ name ++ "` is bound to " ++ found ++ ", which cannot be sliced"

end TreeSpec
