import HandleGraph.Graph.Cursor
import HandleGraph.Graph.File
import HandleGraph.Graph.Index

/-! # Operations on translation units

A successful reparse makes a new generation of the unit, so cursors taken before are stale; a failed
one changes nothing.
-/

namespace HandleGraph.TranslationUnit

variable {σ : Type}

/-- Make a translation unit from a source, on an index of its own. -/
def ofSource (E : Engine σ) (path : Bytes) (args : List String) (unsaved : List UnsavedFile)
    (options : ParseOptions) : Attempt σ TranslationUnit :=
  Index.withPrivate E fun i => i.parse E path args unsaved options

/-- Make a translation unit from a saved one, on an index of its own. -/
def ofAstFile (E : Engine σ) (path : Bytes) : Attempt σ TranslationUnit :=
  Index.withPrivate E fun i => i.read E path

def spelling (E : Engine σ) (u : TranslationUnit) : Attempt σ String := do
  let w ← get
  takeString E (← perform (ask E (.unitSpelling (u.raw w)))) "translation_unit_spelling"

/-- The cursor of the whole unit, of its current generation. -/
def root (E : Engine σ) (u : TranslationUnit) : Attempt σ Cursor := do
  let w ← get
  let raw ← perform (ask E (.rootCursor (u.raw w)))
  if raw.isNull then
    perform (report .rootMissing)
    throw .rootCursorUnavailable
  perform (Cursor.make raw u (u.generation w))

def getFile (E : Engine σ) (u : TranslationUnit) (path : Bytes) : Attempt σ File := do
  let nativePath ← settle (Marshal.path path)
  let w ← get
  let raw ← perform (ask E (.getFile (u.raw w) nativePath))
  if raw.isNull then throw (.fileNotInTranslationUnit (Text.lossy path))
  return ⟨raw, ← perform u.clone⟩

/-- The options for a reparse: those given, or else the engine's default, which is asked for. -/
def reparseBits (E : Engine σ) (u : TranslationUnit) : Option ReparseOptions → Action σ UInt32
  | some options => return options.bits
  | none => do ask E (.defaultReparseOptions (u.raw (← get)))

def reparse (E : Engine σ) (u : TranslationUnit) (unsaved : List UnsavedFile)
    (options : Option ReparseOptions) : Attempt σ Unit := do
  let nativeUnsaved ← settle (Marshal.unsaved unsaved)
  let bits ← perform (u.reparseBits E options)
  let w ← get
  let code ← perform (ask E (.reparse (u.raw w) nativeUnsaved bits))
  if code ≠ 0 then
    perform (report (.reparseFailed (.ofCode code)))
    throw (.reparseFailed (.ofCode code))
  perform (u.update fun cell => { cell with generation := cell.generation + 1 })
  perform (report (.reparsed (u.generation (← get))))

/-- Save the unit, with the engine's default options. -/
def save (E : Engine σ) (u : TranslationUnit) (path : Bytes) : Attempt σ Unit := do
  let nativePath ← settle (Marshal.path path)
  let w ← get
  let bits ← perform (ask E (.defaultSaveOptions (u.raw w)))
  let code ← perform (ask E (.save (u.raw w) nativePath bits))
  if code ≠ 0 then
    perform (report (.saveFailed (Text.lossy path) (.ofCode code)))
    throw (.saveFailed (Text.lossy path) (.ofCode code))
  perform (report (.saved (Text.lossy path)))

end HandleGraph.TranslationUnit
