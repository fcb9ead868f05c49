import HandleGraph.Sequence.Slots

/-! # Sequences with a record of their accesses

A sequence of integers whose first elements are listed, and whose producer notes each position that it
is asked for.
-/

namespace HandleGraph.Sequence

/-- What a table produces beyond its listed elements. -/
inductive Beyond where
  /-- The position itself, as a signed word. -/
  | position
  /-- A failure. -/
  | failure
deriving DecidableEq, Repr

/-- The listed elements of a sequence, each of which may be a failure. -/
structure Table where
  items : List (Except Error Int64)
  beyond : Beyond

def Table.element (t : Table) (index : Nat) : Except Error Int64 :=
  match t.items[index]?, t.beyond with
  | some item, _ => item
  | none, .position => .ok (UInt64.ofNat index).toInt64
  | none, .failure => .error (.nativeQueryFailed "producer")

/-- The sequence of a table. Its state is the list of positions asked for, the latest last. -/
def Table.sequence (t : Table) (length : Nat) : Sequence (StateM (List Nat)) Int64 where
  length := length
  produce index := do
    modify (· ++ [index])
    return t.element index

/-- Carry out steps one after another. With each answer come the positions asked for on the way. -/
def trace (s : Sequence (StateM (List Nat)) Int64) (slots : SlotMap Iterator) :
    List Step → List (Reply Int64 × List Nat)
  | [] => []
  | next :: rest =>
    let ((reply, slots), positions) := (s.step slots next).run []
    (reply, positions) :: trace s slots rest

end HandleGraph.Sequence
