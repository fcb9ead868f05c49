import HandleGraph.Engine.Basic
import HandleGraph.Script.State

/-! # The scripted engine

An engine that takes every answer from a script. It never refuses a handle: what a handle does not
denote, or denotes no longer, counts as missing.
-/

namespace HandleGraph.Script

def openUnit (path : Bytes) : Option Tree → Work UnitHandle
  | none => return NullHandle.null
  | some tree => do
    let id ← issue
    modify fun s => { s with units := s.units ++ [(id, ⟨path, tree⟩)] }
    return ⟨id⟩

/-- Put the present source of a unit's path in place of its tree, if there is one. -/
def refresh (unit : UInt64) : Work Unit :=
  modify fun s =>
    match s.units.lookup unit with
    | none => s
    | some held =>
      match s.sources.lookup held.path with
      | none => s
      | some tree => { s with units := put unit ⟨held.path, tree⟩ s.units }

def store (unit : UInt64) (path : Bytes) : Work Unit :=
  modify fun s => (s.tree? unit).elim s fun tree => { s with saved := put path tree s.saved }

/-- Take the first file of a unit that has a path into use. -/
def useFile (unit : UInt64) (path : Bytes) : Work FileHandle := do
  match ((← get).tree? unit).bind fun tree => tree.files.findIdx? (·.path == path) with
  | none => return NullHandle.null
  | some position =>
    let id ← issue
    modify fun s => { s with files := s.files ++ [(id, unit, position)] }
    return ⟨id⟩

/-- The answer to a question about a cursor, as a C truth value. -/
def truth (s : State) (c : CursorHandle) (t : CursorTest) : Int32 :=
  match s.node? c, t with
  | none, _ => 0
  | some node, .isBitField => if node.bits.isSome then 1 else 0
  | some node, t => node.tests t

def answer : (q : Query) → Work q.Answer
  | .createIndex _ => do
    if (← get).failIndex then return NullHandle.null
    return ⟨← issue⟩
  | .disposeIndex _ => return ()
  | .parse _ path _ _ _ => do openUnit path.bytes ((← get).sources.lookup path.bytes)
  | .load _ path => do openUnit path.bytes ((← get).saved.lookup path.bytes)
  | .defaultReparseOptions _ => do return (← get).defaultReparse
  | .reparse unit _ _ => do
    let status := (← get).reparseStatus
    if status = 0 then refresh unit.address
    return status
  | .defaultSaveOptions _ => do return (← get).defaultSave
  | .save unit path _ => do
    let status := (← get).saveStatus
    if status = 0 then store unit.address path.bytes
    return status
  | .disposeUnit unit => modify fun s => { s with units := remove unit.address s.units }
  | .unitSpelling unit => do handOut (((← get).tree? unit.address).elim (.null 0) (·.main))
  | .rootCursor unit => do
    let s ← get
    return s.cursor unit.address ((s.tree? unit.address).elim .null (·.root))
  | .getFile unit path => useFile unit.address path.bytes
  | .fileName file => do handOut (((← get).file? file.address).elim (.null 0) (·.name))
  | .fileTime file => do return ((← get).file? file.address).elim 0 (·.time)
  | .readString s => do return (((← get).strings.lookup s.data).bind id).map Text.lossy
  | .disposeString s => modify fun state => { state with strings := remove s.data state.strings }
  | .equalCursors a b => do return (← get).equal a b
  | .hash c => do return ((← get).node? c).elim 0 (·.hash)
  | .link l c => do
    let s ← get
    return s.cursor c.data0 ((s.node? c).elim .null (·.links l))
  | .text t c => do handOut (((← get).node? c).elim (.null 0) (·.texts t))
  | .test t c => do return truth (← get) c t != 0
  | .argumentCount c => do
    return ((← get).node? c).elim 0 fun node => node.argCount.getD (Int32.ofNat node.args.length)
  | .argument c index => do
    let s ← get
    return s.cursor c.data0 (((s.node? c).bind (·.args[index.toNat]?)).getD .null)
  | .bitWidth c => do return (((← get).node? c).bind (·.bits)).getD (-1)

def children (c : CursorHandle) : Work (List CursorHandle) := do
  let s ← get
  return ((s.node? c).elim [] (·.children)).map (s.cursor c.data0)

def engine : Engine State where
  answer := answer
  children c _ := children c

end HandleGraph.Script
