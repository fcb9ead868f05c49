import HandleGraph.Graph.NativeString

/-! # Files of a translation unit

The handle of a file belongs to its unit, which the file keeps alive.
-/

namespace HandleGraph

structure File where
  raw : FileHandle
  unit : TranslationUnit
deriving DecidableEq, Repr

namespace File

variable {σ : Type}

def name (E : Engine σ) (f : File) : Attempt σ String := do
  takeString E (← perform (ask E (.fileName f.raw))) "file_name"

/-- When a file was last changed, in seconds since 1970. -/
def time (E : Engine σ) (f : File) : Action σ Int64 := ask E (.fileTime f.raw)

/-- The name of a file, or nothing where it has none. -/
def display (E : Engine σ) (f : File) : Action σ String := do
  match ← (f.name E).run with
  | .ok name => return name
  | .error _ => return ""

def describe (E : Engine σ) (f : File) : Action σ String := do
  return "<File: " ++ (← f.display E) ++ ">"

def clone (f : File) : Action σ File := do
  return ⟨f.raw, ← f.unit.clone⟩

def drop (E : Engine σ) (f : File) : Action σ Unit := f.unit.drop E

end File

end HandleGraph
