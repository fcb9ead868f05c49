import HandleGraph.Engine.Query

/-! # Engines

An engine answers queries and changes its state on the way. It is a parameter of everything built on
it: nothing is assumed of its answers here.

A walk over children offers them one by one to a visitor, which may stop it. The engine says which
children are on offer; which of them the visitor sees, and whether it stopped the walk, follows.
-/

namespace HandleGraph

/-- What a visitor answers to one child. -/
inductive Visit where
  | stop
  | proceed
deriving DecidableEq, Repr

abbrev Visitor := CursorHandle → Visit

/-- The course of a walk: the children shown, the one at which it stopped included. -/
structure Walk where
  shown : List CursorHandle
  stopped : Bool
deriving DecidableEq, Repr

def Visitor.walk (visitor : Visitor) : List CursorHandle → Walk
  | [] => ⟨[], false⟩
  | child :: rest =>
    match visitor child with
    | .stop => ⟨[child], true⟩
    | .proceed =>
      let later := Visitor.walk visitor rest
      ⟨child :: later.shown, later.stopped⟩

/-- An engine with states in `σ`. -/
structure Engine (σ : Type) where
  answer : (q : Query) → σ → q.Answer × σ
  /-- The children on offer when a visitor walks over those of a cursor. -/
  children : CursorHandle → Visitor → σ → List CursorHandle × σ

/-- A finished call of an engine, with what came of it. -/
inductive Call where
  | asked (q : Query) (answer : q.Answer)
  | walked (c : CursorHandle) (walk : Walk)

end HandleGraph
