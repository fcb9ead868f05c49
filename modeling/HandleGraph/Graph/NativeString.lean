import HandleGraph.Graph.World

/-! # Strings of an engine

A string handle belongs to whoever got it. Its text is copied out and the handle is given back at once,
whether there was a text or not. Null handles are neither read nor given back.
-/

namespace HandleGraph

variable {σ : Type}

/-- What the engine itself says about the null string. -/
def nullText (E : Engine σ) : Action σ (Option String) := ask E (.readString NullHandle.null)

/-- Copy the text out of a handle and dispose the handle. A null handle has no text. -/
def takeOptionalString (E : Engine σ) (s : StringHandle) : Action σ (Option String) :=
  if s.isNull then return none
  else do
    let text ← ask E (.readString s)
    ask E (.disposeString s)
    return text

/-- Copy the text out of a handle, for an operation that needs one. -/
def takeString (E : Engine σ) (s : StringHandle) (operation : String) : Attempt σ String := do
  match ← perform (takeOptionalString E s) with
  | some text => return text
  | none => throw (.nativeQueryFailed operation)

end HandleGraph
