import HandleGraph.Error
import HandleGraph.Text.Utf8

/-! # Unsaved files

Contents that an engine uses instead of what a path holds on disk. The bytes are never interpreted.
-/

namespace HandleGraph

/-- Contents for a path. -/
structure UnsavedFile where
  path : String
  contents : Bytes
deriving DecidableEq, Repr

inductive ReadAttempt where
  | data (bytes : Bytes)
  /-- Interrupted before anything was read; reading goes on. -/
  | interrupted
  | failed (reason : String)
deriving DecidableEq, Repr

/-- Everything that a reader gives before its end, or its first failure. -/
def ReadAttempt.readToEnd : List ReadAttempt → Except Error Bytes
  | [] => .ok []
  | .data bytes :: rest => (readToEnd rest).map (bytes ++ ·)
  | .interrupted :: rest => readToEnd rest
  | .failed reason :: _ => .error (.io reason)

/-- The whole of a reader as contents for a path. -/
def UnsavedFile.ofReader (path : String) (attempts : List ReadAttempt) : Except Error UnsavedFile :=
  (ReadAttempt.readToEnd attempts).map (UnsavedFile.mk path)

end HandleGraph
