import HandleGraph.Graph.Marshal
import HandleGraph.Graph.World

/-! # Operations on indexes

An index is where translation units come from. A failed operation leaves no cell behind, and a string
that the engine cannot take is refused before the engine is asked.
-/

namespace HandleGraph.Index

variable {σ α : Type}

def create (E : Engine σ) (options : IndexOptions) : Attempt σ Index := do
  let raw ← perform (ask E (.createIndex options))
  if raw.isNull then
    perform (report .indexMissing)
    throw .creationFailed
  perform (report (.indexCreated raw options))
  perform (allocate raw)

/-- Make a translation unit from a source. -/
def parse (E : Engine σ) (i : Index) (path : Bytes) (args : List String) (unsaved : List UnsavedFile)
    (options : ParseOptions) : Attempt σ TranslationUnit := do
  let nativePath ← settle (Marshal.path path)
  let nativeArgs ← settle (Marshal.args args)
  let nativeUnsaved ← settle (Marshal.unsaved unsaved)
  let w ← get
  let raw ← perform (ask E (.parse (i.raw w) nativePath nativeArgs nativeUnsaved options.bits))
  if raw.isNull then
    perform (report (.parseFailed (Text.lossy path)))
    throw (.parseFailed (Text.lossy path))
  perform (report (.parsed (Text.lossy path) args.length unsaved.length))
  perform (TranslationUnit.allocate raw i)

/-- Make a translation unit from a saved one. -/
def read (E : Engine σ) (i : Index) (path : Bytes) : Attempt σ TranslationUnit := do
  let nativePath ← settle (Marshal.path path)
  let w ← get
  let raw ← perform (ask E (.load (i.raw w) nativePath))
  if raw.isNull then
    perform (report (.loadFailed (Text.lossy path)))
    throw (.loadFailed (Text.lossy path))
  perform (report (.loaded (Text.lossy path)))
  perform (TranslationUnit.allocate raw i)

/-- Work on a new index that is dropped afterwards, whether the work succeeds or not. -/
def withPrivate (E : Engine σ) (work : Index → Attempt σ α) : Attempt σ α := do
  let i ← create E {}
  let result ← perform (work i).run
  perform (i.drop E)
  settle result

end HandleGraph.Index
