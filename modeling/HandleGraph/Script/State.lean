import HandleGraph.Script.Tree

/-! # The state of a scripted engine

Which sources and saved units there are, how the engine is set to answer, and which of the handles that
it gave out are still in use. Indexes, units, files and strings are numbered together, from one.
-/

namespace HandleGraph.Script

inductive Equality where
  /-- All their fields agree. -/
  | raw
  | always
  | never
  /-- They denote the same node number. -/
  | node
deriving DecidableEq, Repr

structure OpenUnit where
  path : Bytes
  tree : Tree

structure State where
  sources : List (Bytes × Tree) := []
  saved : List (Bytes × Tree) := []
  failIndex : Bool := false
  reparseStatus : Int32 := 0
  saveStatus : Int32 := 0
  defaultReparse : UInt32 := 0
  defaultSave : UInt32 := 0
  equality : Equality := .raw
  version : StringSpec := .null 0
  /-- How many handles have been given out. -/
  issued : Nat := 0
  units : List (UInt64 × OpenUnit) := []
  /-- Files in use: the unit of each and its position among the unit's files. -/
  files : List (UInt64 × UInt64 × Nat) := []
  /-- Strings not disposed yet, with their texts. -/
  strings : List (UInt64 × Option Bytes) := []

abbrev Work (α : Type) := StateM State α

/-- One way in which a script can be changed while it runs. -/
inductive Setting where
  | failIndex (fail : Bool)
  | reparseStatus (code : Int32)
  | saveStatus (code : Int32)
  | defaultReparse (bits : UInt32)
  | defaultSave (bits : UInt32)
  | equality (equality : Equality)
  | version (text : StringSpec)
  | source (path : Bytes) (tree : Tree)

def put {κ β : Type} [DecidableEq κ] (key : κ) (value : β) : List (κ × β) → List (κ × β)
  | [] => [(key, value)]
  | (other, held) :: rest => if other = key then (key, value) :: rest else (other, held) :: put key value rest

def remove {κ β : Type} [DecidableEq κ] (key : κ) (entries : List (κ × β)) : List (κ × β) :=
  entries.filter (·.1 ≠ key)

namespace State

def configure (s : State) : Setting → State
  | .failIndex fail => { s with failIndex := fail }
  | .reparseStatus code => { s with reparseStatus := code }
  | .saveStatus code => { s with saveStatus := code }
  | .defaultReparse bits => { s with defaultReparse := bits }
  | .defaultSave bits => { s with defaultSave := bits }
  | .equality equality => { s with equality }
  | .version text => { s with version := text }
  | .source path tree => { s with sources := put path tree s.sources }

def tree? (s : State) (unit : UInt64) : Option Tree := (s.units.lookup unit).map (·.tree)

/-- The node that a cursor denotes: the one before number `data1` of the unit `data0`. -/
def node? (s : State) (c : CursorHandle) : Option Node := do
  let tree ← s.tree? c.data0
  if c.data1 = 0 then none else tree.nodes[c.data1.toNat - 1]?

/-- The cursor that a specification stands for in a unit. -/
def cursor (s : State) (unit : UInt64) : CursorSpec → CursorHandle
  | .null => CursorHandle.null
  | .node position =>
    let kind := ((s.tree? unit).bind (·.nodes[position]?)).elim 0 (·.kind)
    ⟨kind, 0, unit, UInt64.ofNat (position + 1), 0⟩
  | .exactly c => c

/-- What a file in use says, in the present tree of its unit. -/
def file? (s : State) (file : UInt64) : Option FileSpec := do
  let (unit, position) ← s.files.lookup file
  let tree ← s.tree? unit
  tree.files[position]?

def equal (s : State) (a b : CursorHandle) : Bool :=
  match s.equality with
  | .raw => a == b
  | .always => true
  | .never => false
  | .node => a.data1 == b.data1

end State

def issue : Work UInt64 :=
  modifyGet fun s => (UInt64.ofNat (s.issued + 1), { s with issued := s.issued + 1 })

def issueString (text : Option Bytes) : Work StringHandle := do
  let id ← issue
  modify fun s => { s with strings := s.strings ++ [(id, text)] }
  return ⟨id, 1⟩

/-- Hand out a string. -/
def handOut : StringSpec → Work StringHandle
  | .null flags => return ⟨0, flags⟩
  | .text bytes => issueString (some bytes)
  | .lost => issueString none

end HandleGraph.Script
