import HandleGraph.Clang.Binding
import HandleGraph.Script.Engine

/-! # The scripted library

The same script behind the C interface. Strings end at their first NUL, and truth values are the
integers that the script gives.
-/

namespace HandleGraph.Script

open Clang

/-- A pointer to a string's text, null when it has none. -/
def cString (s : CXString) : Work (Option CString) := do
  return (((← get).strings.lookup s.data).bind id).map CString.truncate

/-- The unsaved files that a pointer and a count stand for. -/
def unsavedFiles (pointer : Option (List CXUnsavedFile)) (count : UInt32) : List NativeUnsavedFile :=
  ((pointer.getD []).take count.toNat).map fun f => ⟨f.filename, f.contents.take f.length.toNat⟩

def answerEntry : (f : Entry) → Work f.Result
  | .getClangVersion => do return toCXString (← handOut (← get).version)
  | .createIndex exclude display => do
    return (← answer (.createIndex ⟨exclude != 0, display != 0⟩)).address
  | .disposeIndex index => answer (.disposeIndex ⟨index⟩)
  | .parseTranslationUnit index path args argCount unsaved count options => do
    return (← answer (.parse ⟨index⟩ path (args.take argCount.toInt.toNat)
      (unsavedFiles unsaved count) options)).address
  | .createTranslationUnit index path => do return (← answer (.load ⟨index⟩ path)).address
  | .defaultReparseOptions unit => answer (.defaultReparseOptions ⟨unit⟩)
  | .reparseTranslationUnit unit count unsaved options =>
    answer (.reparse ⟨unit⟩ (unsavedFiles unsaved count) options)
  | .defaultSaveOptions unit => answer (.defaultSaveOptions ⟨unit⟩)
  | .saveTranslationUnit unit path options => answer (.save ⟨unit⟩ path options)
  | .disposeTranslationUnit unit => answer (.disposeUnit ⟨unit⟩)
  | .getTranslationUnitSpelling unit => do return toCXString (← answer (.unitSpelling ⟨unit⟩))
  | .getTranslationUnitCursor unit => do return toCX (← answer (.rootCursor ⟨unit⟩))
  | .getFile unit path => do return (← answer (.getFile ⟨unit⟩ path)).address
  | .getFileName file => do return toCXString (← answer (.fileName ⟨file⟩))
  | .getFileTime file => answer (.fileTime ⟨file⟩)
  | .getCString s => cString s
  | .disposeString s => answer (.disposeString (ofCXString s))
  | .equalCursors a b => do return toCInt (← answer (.equalCursors (ofCX a) (ofCX b)))
  | .hashCursor c => answer (.hash (ofCX c))
  | .link l c => do return toCX (← answer (.link l (ofCX c)))
  | .text t c => do return toCXString (← answer (.text t (ofCX c)))
  | .test t c => do return truth (← get) (ofCX c) t
  | .getNumArguments c => answer (.argumentCount (ofCX c))
  | .getArgument c index => do return toCX (← answer (.argument (ofCX c) index))
  | .getFieldDeclBitWidth c => answer (.bitWidth (ofCX c))

/-- The children on offer for a cursor of the C interface. -/
def childEntries (c : CXCursor) : Work (List CXCursor) := do
  return (← children (ofCX c)).map toCX

def library : Library State where
  find s := (.ok (), s)
  call := answerEntry
  children c _ := childEntries c

def missing (reason : String) : Library State := { library with find := fun s => (.error reason, s) }

end HandleGraph.Script
