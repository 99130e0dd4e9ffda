import TreeSpec.Size

/-!
# Ranges of positions

A range selects positions `start`, `start + step`, … below `stop` in a sequence. Bounds
past the end of the sequence are cut off at its length, and a stop at or before the start
selects nothing.
-/

namespace TreeSpec

/-- A half-open range of positions with a step. -/
structure Range where
  start : Size
  stop : Size
  step : Step
deriving DecidableEq

namespace Range

def limit (r : Range) (length : Nat) : Nat := min r.stop.toNat length

/-- How many positions are selected among `length`: the distance from the start to the
limit, divided by the step and rounded up. -/
def count (r : Range) (length : Nat) : Nat :=
  (r.limit length - r.start.toNat + (r.step.size.toNat - 1)) / r.step.size.toNat

def position (r : Range) (k : Nat) : Nat := r.start.toNat + k * r.step.size.toNat

/-- The first positions selected among `length`, at most `most` of them. -/
def firstPositions (r : Range) (most length : Nat) : List Nat :=
  (List.range (min most (r.count length))).map r.position

def positions (r : Range) (length : Nat) : List Nat :=
  (List.range (r.count length)).map r.position

def select (r : Range) (xs : List α) : List α :=
  let elements := xs.toArray
  (r.positions xs.length).filterMap fun i => elements[i]?

def text (r : Range) : String :=
  toString r.start.toNat ++ ":" ++ toString r.stop.toNat ++ ":" ++ toString r.step.size.toNat

theorem firstPositions_eq_take (r : Range) (most length : Nat) :
    r.firstPositions most length = (r.positions length).take most := by
  simp [firstPositions, positions, List.take_range, ← List.map_take]

theorem select_eq (r : Range) (xs : List α) :
    r.select xs = (r.positions xs.length).filterMap (xs[·]?) := by
  simp [select]

end Range

end TreeSpec
