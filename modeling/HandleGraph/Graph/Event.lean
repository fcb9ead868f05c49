import HandleGraph.Engine.Query
import HandleGraph.Status
import HandleGraph.Text.Quoted

/-! # Events

What a graph reports while it works: a level, a message and named fields. Addresses are written in
hexadecimal, paths as they are shown.
-/

namespace HandleGraph

inductive Level where
  | trace
  | debug
  | info
  | warn
  | error
deriving DecidableEq, Repr

def Level.name : Level → String
  | .trace => "trace"
  | .debug => "debug"
  | .info => "info"
  | .warn => "warn"
  | .error => "error"

inductive Event where
  | indexMissing
  | indexCreated (raw : IndexHandle) (options : IndexOptions)
  | parseFailed (path : String)
  | parsed (path : String) (args unsaved : Nat)
  | loadFailed (path : String)
  | loaded (path : String)
  | rootMissing
  | reparseFailed (status : EngineStatus)
  | reparsed (generation : UInt64)
  | saveFailed (path : String) (status : SaveStatus)
  | saved (path : String)
  | disposingIndex (raw : IndexHandle)
  | disposingUnit (raw : UnitHandle)
  | spellingCached (text : String)
  | linkCached (operation : String)
  | linkAbsent (operation : String)
  | nullChild
  | libraryLoaded
  | versionAccepted (major : UInt32)
  | versionRefused (version : String)
deriving DecidableEq, Repr

namespace Event

def level : Event → Level
  | .indexCreated .. | .parsed .. | .loaded _ | .reparsed _ | .saved _ | .libraryLoaded
  | .versionAccepted _ => .debug
  | .disposingIndex _ | .disposingUnit _ | .spellingCached _ | .linkCached _ | .linkAbsent _ => .trace
  | .indexMissing | .parseFailed _ | .loadFailed _ | .rootMissing | .reparseFailed _
  | .saveFailed .. | .nullChild | .versionRefused _ => .warn

def message : Event → String
  | .indexMissing => "engine returned a null index"
  | .indexCreated raw _ => "created index " ++ Text.address raw.address.toNat
  | .parseFailed path => "failed to parse " ++ path
  | .parsed path .. => "parsed " ++ path
  | .loadFailed path => "failed to load AST file " ++ path
  | .loaded path => "loaded AST file " ++ path
  | .rootMissing => "translation unit has no root cursor"
  | .reparseFailed status => "reparse failed: " ++ status.message
  | .reparsed _ => "reparsed translation unit"
  | .saveFailed path status =>
    "failed to save translation unit to " ++ path ++ ": " ++ status.message
  | .saved path => "saved translation unit to " ++ path
  | .disposingIndex raw => "disposing index " ++ Text.address raw.address.toNat
  | .disposingUnit raw => "disposing translation unit " ++ Text.address raw.address.toNat
  | .spellingCached text => "cached spelling " ++ Text.quoted text
  | .linkCached operation => "cached " ++ operation
  | .linkAbsent operation => "cached absent " ++ operation
  | .nullChild => "child traversal yielded a null cursor"
  | .libraryLoaded => "loaded libclang"
  | .versionAccepted _ => "libclang version accepted"
  | .versionRefused version => "unsupported libclang: " ++ version

def fields : Event → List (String × String)
  | .indexCreated _ options => [("options", options.describe)]
  | .parsed _ args unsaved => [("args", toString args), ("unsaved", toString unsaved)]
  | .reparsed generation => [("generation", toString generation.toNat)]
  | .versionAccepted major => [("major", toString major.toNat)]
  | _ => []

end Event

end HandleGraph
