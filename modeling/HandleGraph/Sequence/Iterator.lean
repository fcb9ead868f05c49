import HandleGraph.Sequence.Basic

/-! # Double-ended iteration

An iterator is the range of positions that have not been produced yet. Each step takes one position
from the front or from the back of the range, so the two ends meet without overlap. Iterators over one
sequence are independent values. An element that fails does not end the iteration; only collecting
stops at the first failure.
-/

namespace HandleGraph.Sequence

/-- The two ends at which an iterator can step. -/
inductive Side where
  | front
  | back
deriving DecidableEq, Repr

/-- The positions `front`, …, `back - 1` are still to come. -/
structure Iterator where
  front : Nat
  back : Nat
  front_le_back : front ≤ back
deriving DecidableEq, Repr

namespace Iterator

def remaining (it : Iterator) : Nat := it.back - it.front

/-- Take the outermost position at one end. -/
def take? (side : Side) (it : Iterator) : Option (Nat × Iterator) :=
  if h : it.front < it.back then
    match side with
    | .front => some (it.front, ⟨it.front + 1, it.back, h⟩)
    | .back => some (it.back - 1, ⟨it.front, it.back - 1, Nat.le_sub_one_of_lt h⟩)
  else none

/-- A step leaves one position fewer. -/
theorem remaining_of_take? {side : Side} {it rest : Iterator} {index : Nat}
    (taken : it.take? side = some (index, rest)) : it.remaining = rest.remaining + 1 := by
  unfold take? at taken
  split at taken
  · cases side <;> simp only [Option.some.injEq, Prod.mk.injEq] at taken <;>
      obtain ⟨-, rfl⟩ := taken <;> simp only [remaining] <;> omega
  · cases taken

end Iterator

variable {m : Type → Type} [Monad m] {α : Type}

def iter (s : Sequence m α) : Iterator := ⟨0, s.length, Nat.zero_le _⟩

/-- Produce the outermost element at one end. Without positions left there is none, and the producer
is not asked. -/
def next (s : Sequence m α) (side : Side) (it : Iterator) : m (Option (Except Error α) × Iterator) :=
  match it.take? side with
  | some (index, rest) => do return (some (← s.produce index), rest)
  | none => return (none, it)

/-- Produce and discard `count` elements, then produce the next one. Stops early at the end. -/
def nth (s : Sequence m α) (side : Side) (it : Iterator) :
    Nat → m (Option (Except Error α) × Iterator)
  | 0 => s.next side it
  | count + 1 => do
    match ← s.next side it with
    | (some _, rest) => s.nth side rest count
    | (none, rest) => return (none, rest)

/-- Produce every remaining element from one end, failures included. -/
def drain (s : Sequence m α) (side : Side) (it : Iterator) : m (List (Except Error α)) :=
  go it.remaining it
where
  /-- At most `fuel` steps, which is enough when it is the number of positions left. -/
  go : Nat → Iterator → m (List (Except Error α))
    | 0, _ => return []
    | fuel + 1, it =>
      match it.take? side with
      | some (index, rest) => do
        let element ← s.produce index
        return element :: (← go fuel rest)
      | none => return []

/-- The elements produced before the first failure, and the failure if there was one. -/
structure Gathered (α : Type) where
  elements : List α
  failure : Option Error
deriving DecidableEq, Repr

/-- All elements, or the failure that ended the gathering. -/
def Gathered.toExcept (g : Gathered α) : Except Error (List α) :=
  match g.failure with
  | none => .ok g.elements
  | some e => .error e

/-- Produce the remaining elements from one end, up to the first failure. -/
def gather (s : Sequence m α) (side : Side) (it : Iterator) : m (Gathered α) :=
  go it.remaining it
where
  /-- At most `fuel` steps, which is enough when it is the number of positions left. -/
  go : Nat → Iterator → m (Gathered α)
    | 0, _ => return ⟨[], none⟩
    | fuel + 1, it =>
      match it.take? side with
      | some (index, rest) => do
        match ← s.produce index with
        | .ok element =>
          let later ← go fuel rest
          return ⟨element :: later.elements, later.failure⟩
        | .error e => return ⟨[], some e⟩
      | none => return ⟨[], none⟩

/-- Collect the remaining elements from one end, unless one of them fails. -/
def collect (s : Sequence m α) (side : Side) (it : Iterator) : m (Except Error (List α)) := do
  return (← s.gather side it).toExcept

def toList (s : Sequence m α) : m (Except Error (List α)) := s.collect .front s.iter

end HandleGraph.Sequence
