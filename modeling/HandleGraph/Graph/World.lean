import HandleGraph.Engine.Basic
import HandleGraph.Error
import HandleGraph.Graph.Event

/-! # The world of a graph

Indexes and translation units live in cells that count their owners. Every index object owns its index
once, and so does every unit made from it; every unit object, cursor, file and cursor sequence owns its
unit once. When the last owner of a cell goes, the engine disposes what the cell stands for, a unit
before its index. Cells are numbered in order of creation and their numbers are never used again.

The world also remembers every call of the engine and every event, in order.
-/

namespace HandleGraph

/-- One owner of an index. -/
structure Index where
  cell : Nat
deriving DecidableEq, Repr

/-- One owner of a translation unit. -/
structure TranslationUnit where
  cell : Nat
deriving DecidableEq, Repr

/-- What is kept of an index. -/
structure IndexCell where
  raw : IndexHandle
  owners : Nat
deriving DecidableEq, Repr

/-- What is kept of a translation unit. Its generation counts the reparses that succeeded. -/
structure UnitCell where
  raw : UnitHandle
  index : Index
  generation : UInt64
  owners : Nat
deriving DecidableEq, Repr

/-- An engine's state, the cells of a graph over it, and what has happened so far. -/
structure World (σ : Type) where
  engine : σ
  indexes : List IndexCell
  units : List UnitCell
  calls : List Call
  events : List Event

/-- Work in a world that cannot fail. -/
abbrev Action (σ α : Type) := StateM (World σ) α

/-- Work in a world that can fail. What it has done by then stays done. -/
abbrev Attempt (σ α : Type) := ExceptT Error (StateM (World σ)) α

/-- Why an engine of one's own could not be had. -/
inductive LoadFault where
  | failed (e : Error)
  | panicked (p : Panic)
deriving DecidableEq, Repr

/-- Getting an engine of one's own. What was done by then stays done when it fails or stops. -/
abbrev Loading (σ α : Type) := ExceptT LoadFault (StateM (World σ)) α

variable {σ α : Type}

def World.start (engine : σ) : World σ := ⟨engine, [], [], [], []⟩

/-- Do something that cannot fail. -/
def perform {ε : Type} (work : Action σ α) : ExceptT ε (StateM (World σ)) α := ExceptT.lift work

/-- Go on with a value or fail with an error. -/
def settle (result : Except Error α) : Attempt σ α := ExceptT.mk (pure result)

def ask (E : Engine σ) (q : Query) : Action σ q.Answer := fun w =>
  let (answer, engine) := E.answer q w.engine
  (answer, { w with engine, calls := w.calls ++ [.asked q answer] })

def walkChildren (E : Engine σ) (c : CursorHandle) (visitor : Visitor) : Action σ Walk := fun w =>
  let (offered, engine) := E.children c visitor w.engine
  let walk := visitor.walk offered
  (walk, { w with engine, calls := w.calls ++ [.walked c walk] })

def report (e : Event) : Action σ Unit := modify fun w => { w with events := w.events ++ [e] }

/-! ## Indexes -/

namespace Index

def raw (i : Index) (w : World σ) : IndexHandle := (w.indexes[i.cell]?).elim NullHandle.null (·.raw)

def owners (i : Index) (w : World σ) : Nat := (w.indexes[i.cell]?).elim 0 (·.owners)

def update (i : Index) (change : IndexCell → IndexCell) : Action σ Unit :=
  modify fun w => { w with indexes := w.indexes.modify i.cell change }

/-- Make a cell for an index, with one owner. -/
def allocate (raw : IndexHandle) : Action σ Index := fun w =>
  (⟨w.indexes.length⟩, { w with indexes := w.indexes ++ [⟨raw, 1⟩] })

/-- One more owner. -/
def clone (i : Index) : Action σ Index := do
  i.update fun cell => { cell with owners := cell.owners + 1 }
  return i

/-- One owner fewer. The last one disposes the index. -/
def drop (E : Engine σ) (i : Index) : Action σ Unit := do
  let w ← get
  i.update fun cell => { cell with owners := cell.owners - 1 }
  if i.owners w = 1 then
    report (.disposingIndex (i.raw w))
    ask E (.disposeIndex (i.raw w))

def describe (i : Index) (w : World σ) : String :=
  "Index \x7b raw: " ++ Text.address (i.raw w).address.toNat ++ ", owners: " ++
    toString (i.owners w) ++ " \x7d"

end Index

/-! ## Translation units -/

namespace TranslationUnit

def raw (u : TranslationUnit) (w : World σ) : UnitHandle :=
  (w.units[u.cell]?).elim NullHandle.null (·.raw)

/-- The index of a unit. The unit keeps owning it. -/
def index (u : TranslationUnit) (w : World σ) : Index := (w.units[u.cell]?).elim ⟨0⟩ (·.index)

/-- How often a unit was reparsed. -/
def generation (u : TranslationUnit) (w : World σ) : UInt64 := (w.units[u.cell]?).elim 0 (·.generation)

def owners (u : TranslationUnit) (w : World σ) : Nat := (w.units[u.cell]?).elim 0 (·.owners)

def update (u : TranslationUnit) (change : UnitCell → UnitCell) : Action σ Unit :=
  modify fun w => { w with units := w.units.modify u.cell change }

/-- Make a cell for a unit of an index, with one owner. The unit owns its index. -/
def allocate (raw : UnitHandle) (i : Index) : Action σ TranslationUnit := do
  let index ← i.clone
  modifyGet fun w => (⟨w.units.length⟩, { w with units := w.units ++ [⟨raw, index, 0, 1⟩] })

/-- One more owner. -/
def clone (u : TranslationUnit) : Action σ TranslationUnit := do
  u.update fun cell => { cell with owners := cell.owners + 1 }
  return u

/-- One owner fewer. The last one disposes the unit and lets go of its index. -/
def drop (E : Engine σ) (u : TranslationUnit) : Action σ Unit := do
  let w ← get
  u.update fun cell => { cell with owners := cell.owners - 1 }
  if u.owners w = 1 then
    report (.disposingUnit (u.raw w))
    ask E (.disposeUnit (u.raw w))
    (u.index w).drop E

def describe (u : TranslationUnit) (w : World σ) : String :=
  "TranslationUnit \x7b raw: " ++ Text.address (u.raw w).address.toNat ++ ", generation: " ++
    toString (u.generation w).toNat ++ ", .. \x7d"

end TranslationUnit

end HandleGraph
