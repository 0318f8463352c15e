/-!
# First-in first-out queues

A queue as a front list, read from, and a back list, written to in reverse; a read from an
empty front turns the back around. Pushing and popping take constant time on average, which
matters for byte rings that are filled and drained on every pass of the main loop.

* `Queue.toList` : the queued items, oldest first (`toList_push`, `toList_pushAll`);
* `Queue.pop?` : the oldest item and the rest (`pop?_toList`).
-/

namespace Stimulator

/-- A first-in first-out queue. -/
structure Queue (α : Type) where
  front : List α := []
  back : List α := []
  deriving Inhabited

namespace Queue

variable {α : Type}

/-- The items, oldest first. -/
def toList (q : Queue α) : List α := q.front ++ q.back.reverse

/-- Whether nothing is queued. -/
def isEmpty (q : Queue α) : Bool := q.front.isEmpty && q.back.isEmpty

/-- How many items are queued. -/
def size (q : Queue α) : Nat := q.front.length + q.back.length

/-- Queue an item. -/
def push (x : α) (q : Queue α) : Queue α := { q with back := x :: q.back }

/-- Queue items, first to last. -/
def pushAll (xs : List α) (q : Queue α) : Queue α := xs.foldl (fun q x => q.push x) q

/-- The oldest item and the queue without it. -/
def pop? (q : Queue α) : Option (α × Queue α) :=
  match q.front with
  | x :: f => some (x, { q with front := f })
  | [] =>
    match q.back.reverse with
    | [] => none
    | x :: f => some (x, { front := f, back := [] })

theorem toList_push (x : α) (q : Queue α) : (q.push x).toList = q.toList ++ [x] := by
  simp [toList, push]

theorem toList_pushAll (xs : List α) (q : Queue α) : (q.pushAll xs).toList = q.toList ++ xs := by
  induction xs generalizing q with
  | nil => simp [pushAll]
  | cons x xs ih =>
    have step : q.pushAll (x :: xs) = (q.push x).pushAll xs := rfl
    rw [step, ih, toList_push, List.append_assoc]
    rfl

theorem size_eq_length (q : Queue α) : q.size = q.toList.length := by
  simp [size, toList]

theorem isEmpty_iff (q : Queue α) : q.isEmpty = true ↔ q.toList = [] := by
  simp [isEmpty, toList]

theorem pop?_toList (q : Queue α) :
    (q.pop?.map fun p => p.1 :: p.2.toList) = match q.toList with
      | [] => none
      | x :: rest => some (x :: rest) := by
  unfold pop?
  cases hf : q.front with
  | cons x f => simp [toList, hf]
  | nil =>
    cases hb : q.back.reverse with
    | nil => simp [toList, hf, hb]
    | cons x f => simp [toList, hf, hb]

end Queue

end Stimulator
