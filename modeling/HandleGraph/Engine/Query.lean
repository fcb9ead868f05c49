import HandleGraph.Handle.Basic
import HandleGraph.Options
import HandleGraph.Text.CString

/-! # Queries to an engine

Every entry point of an engine, with its arguments, and the type of its answer. Only handles and plain
data cross this border; who owns the handles in an answer is the caller's business. The walk over the
children of a cursor is not among the queries, because it calls back.
-/

namespace HandleGraph

/-- Contents for a path, in the form in which the engine takes them. -/
structure NativeUnsavedFile where
  path : CString
  contents : Bytes
deriving DecidableEq

/-- The cursors that one cursor leads to. -/
inductive Link where
  | canonical
  | semanticParent
  | lexicalParent
  | referenced
  | definition
deriving DecidableEq, Repr

inductive CursorText where
  | spelling
  | displayName
  | usr
  | briefComment
  | rawComment
deriving DecidableEq, Repr

/-- The yes-or-no questions about a cursor. -/
inductive CursorTest where
  | isDefinition
  | isStaticMethod
  | isBitField
deriving DecidableEq, Repr

inductive Query where
  | createIndex (options : IndexOptions)
  | disposeIndex (index : IndexHandle)
  | parse (index : IndexHandle) (path : CString) (args : List CString)
      (unsaved : List NativeUnsavedFile) (options : UInt32)
  | load (index : IndexHandle) (path : CString)
  | defaultReparseOptions (unit : UnitHandle)
  | reparse (unit : UnitHandle) (unsaved : List NativeUnsavedFile) (options : UInt32)
  | defaultSaveOptions (unit : UnitHandle)
  | save (unit : UnitHandle) (path : CString) (options : UInt32)
  | disposeUnit (unit : UnitHandle)
  | unitSpelling (unit : UnitHandle)
  | rootCursor (unit : UnitHandle)
  | getFile (unit : UnitHandle) (path : CString)
  | fileName (file : FileHandle)
  | fileTime (file : FileHandle)
  | readString (s : StringHandle)
  | disposeString (s : StringHandle)
  | equalCursors (a b : CursorHandle)
  | hash (c : CursorHandle)
  | link (l : Link) (c : CursorHandle)
  | text (t : CursorText) (c : CursorHandle)
  | test (t : CursorTest) (c : CursorHandle)
  | argumentCount (c : CursorHandle)
  | argument (c : CursorHandle) (index : UInt32)
  | bitWidth (c : CursorHandle)
deriving DecidableEq

@[reducible] def Query.Answer : Query → Type
  | .createIndex _ => IndexHandle
  | .parse .. | .load .. => UnitHandle
  | .defaultReparseOptions _ | .defaultSaveOptions _ => UInt32
  | .reparse .. | .save .. => Int32
  | .disposeIndex _ | .disposeUnit _ | .disposeString _ => Unit
  | .unitSpelling _ | .fileName _ | .text .. => StringHandle
  | .rootCursor _ | .link .. | .argument .. => CursorHandle
  | .getFile .. => FileHandle
  | .fileTime _ => Int64
  | .readString _ => Option String
  | .equalCursors .. | .test .. => Bool
  | .hash _ => UInt32
  | .argumentCount _ | .bitWidth _ => Int32

end HandleGraph
