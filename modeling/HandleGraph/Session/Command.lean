import HandleGraph.Engine.Query
import HandleGraph.Options
import HandleGraph.Sequence.Iterator
import HandleGraph.UnsavedFile

/-! # Commands

Everything that can be done with a graph whose objects have names. A cursor is named by its slot and a
chain of links, which leads to cursors that the one in the slot remembers. A request says in addition
under which name a new object is kept.
-/

namespace HandleGraph

/-- The cursor in a slot, or one that it leads to. -/
structure CursorRef where
  slot : String
  path : List Link
deriving DecidableEq, Repr

inductive Question where
  | view
  | copy
  | unit
  | kind
  | spelling
  | displayName
  | usr
  | hash
  | link (l : Link)
  | test (t : CursorTest)
  | briefComment
  | rawComment
  | bitFieldWidth
  | children
  | arguments
deriving DecidableEq, Repr

/-- How one element of a sequence is reached. -/
inductive Access where
  | get (index : Nat)
  | getUnchecked (index : Nat)
  | front
  | back
deriving DecidableEq, Repr

/-- What can be done with the objects of a session. -/
inductive Command where
  | createIndex (options : IndexOptions)
  | parse (on : String) (path : Bytes) (args : List String) (unsaved : List UnsavedFile)
      (options : ParseOptions)
  | read (on : String) (path : Bytes)
  | ofSource (path : Bytes) (args : List String) (unsaved : List UnsavedFile) (options : ParseOptions)
  | ofAstFile (path : Bytes)
  | unitIndex (on : String)
  | unitSpelling (on : String)
  | generation (on : String)
  | root (on : String)
  | getFile (on : String) (path : Bytes)
  | reparse (on : String) (unsaved : List UnsavedFile) (options : Option ReparseOptions)
  | save (on : String) (path : Bytes)
  | fileName (on : String)
  | fileTime (on : String)
  | fileDisplay (on : String)
  | fileUnit (on : String)
  | nullCursor
  | ask (on : CursorRef) (question : Question)
  | equal (a b : CursorRef)
  | access (on : String) (element : Access)
  | each (on : String) (side : Sequence.Side)
  | collect (on : String)
  | clone (on : String)
  | drop (on : String)
  | same (a b : String)
  | describe (on : String)
  | readNullString (on : String)

/-- A command, and where the object that it makes is kept. -/
structure Request where
  command : Command
  into : Option String

end HandleGraph
