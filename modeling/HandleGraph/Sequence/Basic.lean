import HandleGraph.Error

/-! # Sequences

A sequence has a length and produces its elements on access. Nothing is stored: every access asks the
producer again, and whatever the producer does or answers is passed on unchanged. Only `get`, `front`
and `back` check positions against the length.
-/

namespace HandleGraph

/-- A sequence whose elements are produced in the monad `m`. -/
structure Sequence (m : Type → Type) (α : Type) where
  length : Nat
  /-- Produce the element at a position, which may lie past the end. -/
  produce : Nat → m (Except Error α)

namespace Sequence

variable {m : Type → Type} [Monad m] {α : Type}

def empty : Sequence m α where
  length := 0
  produce index := pure (.error (.indexOutOfRange index 0))

def isEmpty (s : Sequence m α) : Bool := s.length == 0

/-- The element at a position within the length. -/
def get (s : Sequence m α) (index : Nat) : m (Except Error α) :=
  if index < s.length then s.produce index else pure (.error (.indexOutOfRange index s.length))

/-- The element at a position that the caller answers for. -/
def getUnchecked (s : Sequence m α) (index : Nat) : m (Except Error α) := s.produce index

def front (s : Sequence m α) : m (Except Error α) := s.get 0

def back (s : Sequence m α) : m (Except Error α) :=
  match s.length with
  | 0 => pure (.error (.indexOutOfRange 0 0))
  | n + 1 => s.get n

def describe (s : Sequence m α) : String :=
  "Sequence \x7b len: " ++ toString s.length ++ ", .. \x7d"

end Sequence

end HandleGraph
