import HandleGraph.Graph.Cursor
import HandleGraph.Sequence.Iterator

/-! # Sequences of cursors

The children of a cursor are collected once and handed out from the list; the arguments are asked of
the engine one by one, on every access. Either way the elements have the unit and the generation of the
cursor they were reached from. The sequence owns the unit, so it outlives that cursor.
-/

namespace HandleGraph

/-- Where the elements of a sequence come from. -/
inductive CursorSource where
  | children (raws : List CursorHandle)
  | arguments (parent : CursorHandle) (count : Nat)
deriving DecidableEq, Repr

/-- Cursors reached from a cursor of a unit. -/
structure CursorSequence where
  unit : TranslationUnit
  generation : UInt64
  source : CursorSource
deriving DecidableEq, Repr

namespace CursorSequence

variable {σ : Type}

def length (s : CursorSequence) : Nat :=
  match s.source with
  | .children raws => raws.length
  | .arguments _ count => count

/-- Produce the element at a position. The engine numbers arguments by 32-bit words. -/
def produce (E : Engine σ) (s : CursorSequence) (index : Nat) : Attempt σ Cursor :=
  match s.source with
  | .children raws =>
    match raws[index]? with
    | some raw => perform (Cursor.make raw s.unit s.generation)
    | none => throw (.indexOutOfRange index raws.length)
  | .arguments parent count => do
    if UInt32.size ≤ index then throw (.indexOutOfRange index count)
    let raw ← perform (ask E (.argument parent (UInt32.ofNat index)))
    if raw.isNull then throw (.nativeQueryFailed "get_arguments")
    perform (Cursor.make raw s.unit s.generation)

def toSequence (E : Engine σ) (s : CursorSequence) : Sequence (StateM (World σ)) Cursor where
  length := s.length
  produce index := (s.produce E index).run

/-- All elements in order. When one of them fails, those before it are let go of. -/
def toList (E : Engine σ) (s : CursorSequence) : Attempt σ (List Cursor) := do
  let gathered ← perform ((s.toSequence E).gather .front (s.toSequence E).iter)
  if gathered.failure.isSome then perform (gathered.elements.forM (·.drop E))
  settle gathered.toExcept

def drop (E : Engine σ) (s : CursorSequence) : Action σ Unit := s.unit.drop E

end CursorSequence

end HandleGraph
