/-!
# Double-ended queues

A sequence that grows at both ends, kept as a front part and a reversed back part.
`Deque.toList` is the sequence itself.
-/

namespace TreeSpec

/-- A sequence in two parts; the back part starts with the last element. -/
structure Deque (α : Type u) where
  front : List α
  back : List α

namespace Deque

def toList (q : Deque α) : List α := q.front ++ q.back.reverse

def length (q : Deque α) : Nat := q.front.length + q.back.length

/-- The element at a position, which lies in the front part or, counted from its end, in the
back part. -/
def get? (q : Deque α) (i : Nat) : Option α :=
  if i < q.front.length then q.front[i]?
  else if i < q.length then q.back[q.length - 1 - i]?
  else none

def ofList (xs : List α) : Deque α := ⟨xs, []⟩

def pushBack (q : Deque α) (x : α) : Deque α := ⟨q.front, x :: q.back⟩

def pushFront (q : Deque α) (x : α) : Deque α := ⟨x :: q.front, q.back⟩

@[simp] theorem length_toList (q : Deque α) : q.toList.length = q.length := by
  simp [toList, length]

@[simp] theorem toList_ofList (xs : List α) : (ofList xs).toList = xs := by simp [ofList, toList]

@[simp] theorem toList_pushBack (q : Deque α) (x : α) :
    (q.pushBack x).toList = q.toList ++ [x] := by simp [pushBack, toList]

@[simp] theorem toList_pushFront (q : Deque α) (x : α) :
    (q.pushFront x).toList = x :: q.toList := by simp [pushFront, toList]

theorem getElem?_toList (q : Deque α) (i : Nat) : q.toList[i]? = q.get? i := by
  rw [toList, get?, List.getElem?_append]
  by_cases front : i < q.front.length
  · rw [if_pos front, if_pos front]
  · rw [if_neg front, if_neg front, length]
    by_cases back : i < q.front.length + q.back.length
    · have place : q.back.length - 1 - (i - q.front.length) =
          q.front.length + q.back.length - 1 - i := by
        omega
      rw [if_pos back, List.getElem?_reverse (by omega), place]
    · rw [if_neg back, List.getElem?_eq_none]
      rw [List.length_reverse]
      omega

end Deque

end TreeSpec
