import HandleGraph.Graph.World

/-! # Cursors

A cursor is a position in the syntax tree of a translation unit, as of one generation of the unit. It
remembers answers of the engine, among them other cursors, which remember answers of their own. Each
cursor that belongs to a unit owns the unit once; the null cursor belongs to none.

A copy shares the position and remembers nothing.
-/

namespace HandleGraph

/-- What a cursor remembers. -/
structure Memo (γ : Type) where
  spelling : Option String := none
  displayName : Option String := none
  hash : Option UInt32 := none
  canonical : Option γ := none
  semanticParent : Option γ := none
  lexicalParent : Option γ := none
  referenced : Option γ := none
  definition : Option γ := none

/-- A position in a syntax tree, with what is remembered of it. -/
structure Cursor where
  raw : CursorHandle
  unit : Option TranslationUnit
  generation : UInt64
  memo : Memo Cursor

/-- Every link, in the order in which a memo holds them. -/
def Link.all : List Link := [.canonical, .semanticParent, .lexicalParent, .referenced, .definition]

namespace Memo

variable {γ : Type}

def empty : Memo γ := {}

def link (m : Memo γ) : Link → Option γ
  | .canonical => m.canonical
  | .semanticParent => m.semanticParent
  | .lexicalParent => m.lexicalParent
  | .referenced => m.referenced
  | .definition => m.definition

def setLink (m : Memo γ) (l : Link) (c : γ) : Memo γ :=
  match l with
  | .canonical => { m with canonical := some c }
  | .semanticParent => { m with semanticParent := some c }
  | .lexicalParent => { m with lexicalParent := some c }
  | .referenced => { m with referenced := some c }
  | .definition => { m with definition := some c }

@[simp] theorem link_setLink (m : Memo γ) (l other : Link) (c : γ) :
    (m.setLink l c).link other = if other = l then some c else m.link other := by
  cases l <;> cases other <;> rfl

end Memo

namespace Cursor

variable {σ : Type}

def null : Cursor := ⟨CursorHandle.null, none, 0, .empty⟩

def isNull (c : Cursor) : Bool := c.raw.isNull || c.unit.isNone

/-- A cursor of a unit, with nothing remembered. It owns the unit. -/
def make (raw : CursorHandle) (u : TranslationUnit) (generation : UInt64) : Action σ Cursor := do
  return ⟨raw, some (← u.clone), generation, .empty⟩

/-- A copy that remembers nothing. -/
def clone (c : Cursor) : Action σ Cursor :=
  match c.unit with
  | some u => make c.raw u c.generation
  | none => return ⟨c.raw, none, c.generation, .empty⟩

/-- Whether the unit was reparsed since the cursor was taken from it. -/
def isStale (c : Cursor) (w : World σ) : Bool := c.unit.any fun u => u.generation w != c.generation

mutual

/-- The units that a cursor owns, one entry for each time: its own, then those of what it remembers. -/
def owned : Cursor → List TranslationUnit
  | ⟨_, unit, _, memo⟩ => unit.toList ++ Memo.owned memo

def Memo.owned : Memo Cursor → List TranslationUnit
  | ⟨_, _, _, a, b, c, d, e⟩ =>
    ownedBy a ++ ownedBy b ++ ownedBy c ++ ownedBy d ++ ownedBy e

def ownedBy : Option Cursor → List TranslationUnit
  | none => []
  | some c => c.owned

end

/-- Let go of everything that a cursor owns. -/
def drop (E : Engine σ) (c : Cursor) : Action σ Unit := c.owned.forM (TranslationUnit.drop E)

/-- Whether the engine takes two cursors for the same position. Cursors without a unit are compared as
they are. -/
def equal (E : Engine σ) (a b : Cursor) : Action σ Bool :=
  if (a.unit <|> b.unit).isSome then ask E (.equalCursors a.raw b.raw)
  else return a.raw == b.raw

def describe (c : Cursor) (w : World σ) : String :=
  if c.isNull then "Cursor(null)"
  else "Cursor \x7b kind: " ++ toString c.raw.kind.toInt ++ ", stale: " ++ toString (c.isStale w) ++
    ", .. \x7d"

end Cursor

end HandleGraph
