import HandleGraph.Engine.Query
import HandleGraph.Error
import HandleGraph.UnsavedFile

/-! # Arguments for the engine

Paths, compiler arguments and unsaved files in the form in which an engine takes them. A NUL byte in a
path or an argument is refused; contents may hold any bytes. Nothing else is changed.
-/

namespace HandleGraph.Marshal

/-- A C string of these bytes. The error says what they were for. -/
def cString (what : String) (bytes : Bytes) : Except Error CString :=
  match CString.ofBytes? bytes with
  | some s => .ok s
  | none => .error (.interiorNul what)

def path (bytes : Bytes) : Except Error CString := cString "path" bytes

def args (texts : List String) : Except Error (List CString) :=
  texts.mapM fun text => cString "compiler argument" (Text.encode text)

def unsaved (files : List UnsavedFile) : Except Error (List NativeUnsavedFile) :=
  files.mapM fun file => do
    return ⟨← cString "unsaved file path" (Text.encode file.path), file.contents⟩

end HandleGraph.Marshal
