import HandleGraph.Engine.Query

/-! # Scripted syntax trees

The syntax tree of a translation unit written down node by node, with everything that an engine can be
asked about it. Cursors are written as positions in the list of nodes or as they are.
-/

namespace HandleGraph.Script

inductive StringSpec where
  /-- A null string, which may carry flags all the same. -/
  | null (flags : UInt32)
  | text (bytes : Bytes)
  /-- A string that is not null and still has no text. -/
  | lost
deriving DecidableEq, Repr

inductive CursorSpec where
  | null
  | node (position : Nat)
  | exactly (c : CursorHandle)
deriving DecidableEq, Repr

structure Node where
  kind : Int32
  texts : CursorText → StringSpec
  links : Link → CursorSpec
  children : List CursorSpec
  args : List CursorSpec
  /-- The number of arguments to report, if it is not that of `args`. -/
  argCount : Option Int32
  hash : UInt32
  /-- The answers to the questions that are not about bit fields, as C truth values. -/
  tests : CursorTest → Int32
  bits : Option Int32

structure FileSpec where
  path : Bytes
  name : StringSpec
  time : Int64
deriving DecidableEq, Repr

/-- A syntax tree with the files that took part in it. -/
structure Tree where
  main : StringSpec
  root : CursorSpec
  nodes : List Node
  files : List FileSpec

end HandleGraph.Script
