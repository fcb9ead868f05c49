import HandleGraph.Handle.Basic

/-! # Single owners

An owner holds one handle and a disposer, and disposes the handle when it gives it up for another one
or is dropped. Null handles are never disposed. Disposals are results here: each operation returns the
disposals it makes, in order, together with the owner it leaves.
-/

namespace HandleGraph

/-- The owner of one handle. -/
structure Owned (H D : Type) where
  raw : H
  disposer : D
deriving DecidableEq, Repr

structure Disposal (H D : Type) where
  disposer : D
  raw : H
deriving DecidableEq, Repr

namespace Owned

variable {H D : Type} [NullHandle H]

def empty (disposer : D) : Owned H D := ⟨NullHandle.null, disposer⟩

def isNull (o : Owned H D) : Bool := NullHandle.isNull o.raw

def isValid (o : Owned H D) : Bool := !o.isNull

/-- Give the handle away undisposed. -/
def release (o : Owned H D) : H × Owned H D := (o.raw, empty o.disposer)

def disposals (o : Owned H D) : List (Disposal H D) :=
  if o.isNull then [] else [⟨o.disposer, o.raw⟩]

/-- Hold another handle and dispose the one held so far. -/
def reset (o : Owned H D) (raw : H) : Owned H D × List (Disposal H D) :=
  (⟨raw, o.disposer⟩, o.disposals)

def clear (o : Owned H D) : Owned H D × List (Disposal H D) := o.reset NullHandle.null

/-- Move the handle into a new owner with the same disposer. The result is the new owner and the old
one, now empty. -/
def take (o : Owned H D) : Owned H D × Owned H D := (⟨o.release.1, o.disposer⟩, o.release.2)

def drop (o : Owned H D) : List (Disposal H D) := o.clear.2

def describe (showHandle : H → String) (o : Owned H D) : String := "Unique(" ++ showHandle o.raw ++ ")"

end Owned

end HandleGraph
