import HandleGraph.Status

/-! # Errors

Why an operation on handles or on the graph can fail. Each cause carries what its message names; paths
are carried as they are shown, with ill-formed bytes already replaced.
-/

namespace HandleGraph

/-- The cause of a failure. -/
inductive Error where
  /-- The engine returned no index. -/
  | creationFailed
  /-- The engine made no translation unit from a source. -/
  | parseFailed (path : String)
  /-- The engine made no translation unit from a saved one. -/
  | loadFailed (path : String)
  /-- Reparsing returned a status other than zero. -/
  | reparseFailed (status : EngineStatus)
  /-- Saving returned a status other than zero. -/
  | saveFailed (path : String) (status : SaveStatus)
  /-- A translation unit has no root cursor. -/
  | rootCursorUnavailable
  /-- The path is not among the files of a translation unit. -/
  | fileNotInTranslationUnit (path : String)
  /-- A walk over children met a null cursor. -/
  | childVisitFailed
  /-- A kind was registered a second time. -/
  | duplicateKind (value : Int32) (existing : String)
  /-- A kind was never registered. -/
  | unknownKind (value : Int32)
  /-- A position lies past the end of a sequence. -/
  | indexOutOfRange (index length : Nat)
  /-- A query had no answer, for the most part because its receiver is null. -/
  | nativeQueryFailed (operation : String)
  /-- A string for the engine holds a NUL byte. -/
  | interiorNul (what : String)
  /-- The engine cannot be used. -/
  | engineUnavailable (reason : String)
  /-- Contents could not be read. -/
  | io (reason : String)
deriving DecidableEq, Repr

/-- Why the program itself stops. Nobody is handed an error then. -/
inductive Panic where
  /-- A sum does not fit its word. -/
  | overflow
deriving DecidableEq, Repr

namespace Error

def message : Error → String
  | .creationFailed => "error creating index"
  | .parseFailed path => "error parsing translation unit: " ++ path
  | .loadFailed path => "error loading translation unit from AST file: " ++ path
  | .reparseFailed status => "error reparsing translation unit (" ++ status.message ++ ")"
  | .saveFailed path status => "error " ++ status.message ++ " saving translation unit to " ++ path
  | .rootCursorUnavailable => "error retrieving the cursor that represents the translation unit"
  | .fileNotInTranslationUnit path => "the file was not a part of this translation unit: " ++ path
  | .childVisitFailed => "child traversal produced a null cursor"
  | .duplicateKind value existing =>
    "kind " ++ toString value.toInt ++ " is already registered as " ++ existing
  | .unknownKind value => "unknown kind: " ++ toString value.toInt
  | .indexOutOfRange index length =>
    "index " ++ toString index ++ " out of range for sequence of length " ++ toString length
  | .nativeQueryFailed operation => "native query failed: " ++ operation
  | .interiorNul what => what ++ " contains an interior NUL byte"
  | .engineUnavailable reason => "engine unavailable: " ++ reason
  | .io reason => "IO error: " ++ reason

def isQueryFailure : Error → Bool
  | .nativeQueryFailed _ => true
  | _ => false

end Error

end HandleGraph
