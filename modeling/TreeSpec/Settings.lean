import TreeSpec.Size

/-!
# Settings

The knobs of variable resolution, with their built-in values. Both concern diagnostics only.
-/

namespace TreeSpec

structure Settings where
  /-- Whether every text that is read as an expression is logged. -/
  traceMatches : Bool := false
  /-- How many bound names an unknown-variable error may list. -/
  maxKnownNames : Size := 32
deriving DecidableEq

end TreeSpec
