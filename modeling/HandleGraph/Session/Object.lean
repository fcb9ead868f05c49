import HandleGraph.Graph.Inspect
import HandleGraph.Graph.TranslationUnit
import HandleGraph.Kind.CursorKind

/-! # Objects of a graph

What a session can hold: any of the things that a graph hands out. Each object owns what its own kind
owns, and lets go of it as a whole.
-/

namespace HandleGraph

/-- A thing that a graph hands out. -/
inductive Object where
  | index (i : Index)
  | unit (u : TranslationUnit)
  | file (f : File)
  | cursor (c : Cursor)
  | cursors (s : CursorSequence)

/-- What shows of a cursor without asking the engine. -/
structure CursorView where
  raw : CursorHandle
  isNull : Bool
  isStale : Bool
  hasUnit : Bool
deriving DecidableEq, Repr

inductive Reply where
  | done
  | flag (holds : Bool)
  | number (n : Int)
  | text (t : String)
  | optionalText (t : Option String)
  | kind (k : CursorKind) (name : String)
  | index (raw : IndexHandle)
  | unit (raw : UnitHandle) (index : IndexHandle)
  | file (raw : FileHandle)
  | cursor (view : CursorView)
  | cursors (length : Nat) (isEmpty : Bool)
  | views (all : List CursorView)
  | results (all : List (Except Error CursorView))

variable {σ : Type}

def Cursor.view (c : Cursor) (w : World σ) : CursorView := ⟨c.raw, c.isNull, c.isStale w, c.unit.isSome⟩

namespace Object

def index? : Object → Option Index
  | .index i => some i
  | _ => none

def unit? : Object → Option TranslationUnit
  | .unit u => some u
  | _ => none

def file? : Object → Option File
  | .file f => some f
  | _ => none

def cursor? : Object → Option Cursor
  | .cursor c => some c
  | _ => none

def cursors? : Object → Option CursorSequence
  | .cursors s => some s
  | _ => none

def drop (E : Engine σ) : Object → Action σ Unit
  | .index i => i.drop E
  | .unit u => u.drop E
  | .file f => f.drop E
  | .cursor c => c.drop E
  | .cursors s => s.drop E

/-- A second object for the same thing. Sequences cannot be copied. -/
def clone? : Object → Option (Action σ Object)
  | .index i => some (.index <$> i.clone)
  | .unit u => some (.unit <$> u.clone)
  | .file f => some (.file <$> f.clone)
  | .cursor c => some (.cursor <$> c.clone)
  | .cursors _ => none

/-- An object in a debugging text. For a file the engine is asked for its name. -/
def describe (E : Engine σ) : Object → Action σ String
  | .index i => do return i.describe (← get)
  | .unit u => do return u.describe (← get)
  | .file f => f.describe E
  | .cursor c => do return c.describe (← get)
  | .cursors s => return (s.toSequence E).describe

/-- Whether two indexes or two units are owners of the same thing. Other objects are not compared. -/
def same? : Object → Object → Option Bool
  | .index i, .index j => some (i == j)
  | .unit u, .unit v => some (u == v)
  | _, _ => none

def reply (o : Object) (w : World σ) : Reply :=
  match o with
  | .index i => .index (i.raw w)
  | .unit u => .unit (u.raw w) ((u.index w).raw w)
  | .file f => .file f.raw
  | .cursor c => .cursor (c.view w)
  | .cursors s => .cursors s.length (s.length == 0)

end Object

end HandleGraph
