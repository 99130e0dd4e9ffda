import TreeSpec.Range

/-!
# Walking through a range

A range can be walked through one position at a time in sizes alone: the bounds are brought into
the sequence, and each sum is looked at before it is used.
-/

namespace TreeSpec

def Size.add? (a b : Size) : Option Size := Size.ofNat? (a.toNat + b.toNat)

/-- A stretch of positions: those from `next` on that lie below `stop`. -/
structure Stretch where
  next : Size
  stop : Size

namespace Stretch

/-- The position that lies `skip` behind the next one, and the stretch behind it; nothing if the
stretch has no such position. -/
def skip? (s : Stretch) (skip : Size) : Option (Size × Stretch) :=
  match Size.add? s.next skip with
  | none => none
  | some p => if p < s.stop then some (p, ⟨p + 1, s.stop⟩) else none

variable {s rest : Stretch} {skip gap p : Size}

theorem toNat_succ (h : p < s.stop) : (p + 1).toNat = p.toNat + 1 := by
  have below : p.toNat < s.stop.toNat := UInt64.lt_iff_toNat_lt.1 h
  have fits := s.stop.toNat_lt
  rw [UInt64.toNat_add, UInt64.toNat_one]
  omega

theorem skip?_eq_some_iff :
    s.skip? skip = some (p, rest) ↔
      p.toNat = s.next.toNat + skip.toNat ∧ p < s.stop ∧ rest = ⟨p + 1, s.stop⟩ := by
  rw [skip?, ← Size.ofNat?_eq_some_iff]
  change _ ↔ Size.add? s.next skip = some p ∧ _
  cases Size.add? s.next skip with
  | none => simp
  | some q =>
    by_cases h : q < s.stop
    · simp only [if_pos h, Option.some.injEq, Prod.mk.injEq]
      constructor
      · rintro ⟨rfl, rfl⟩
        exact ⟨rfl, h, rfl⟩
      · rintro ⟨rfl, _, rfl⟩
        exact ⟨rfl, rfl⟩
    · simp only [if_neg h, Option.some.injEq, reduceCtorEq, false_iff]
      rintro ⟨rfl, below, _⟩
      exact h below

/-- The positions of a stretch that are visited when `skip` of them are passed over first, and
`gap` of them behind each position that is visited. -/
def walk (s : Stretch) (skip gap : Size) : List Size :=
  match _h : s.skip? skip with
  | none => []
  | some (p, rest) => p :: rest.walk gap gap
termination_by s.stop.toNat - s.next.toNat
decreasing_by
  obtain ⟨sum, below, rfl⟩ := skip?_eq_some_iff.1 _h
  have := UInt64.lt_iff_toNat_lt.1 below
  have := toNat_succ below
  dsimp only
  omega

end Stretch

/-- The positions that a walk through a range visits among `length`. The start is brought down to
the length, and the stop to the length and up to the start. -/
def Range.walk (r : Range) (length : Size) : List Size :=
  let start := min r.start length
  let stop := max (min r.stop length) start
  Stretch.walk ⟨start, stop⟩ 0 (r.step.size - 1)

end TreeSpec
