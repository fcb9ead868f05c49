import HandleGraph.Clang.Library
import HandleGraph.Clang.Version
import HandleGraph.Graph.World

/-! # libclang as an engine

The engine that passes every query on to a library. Structures are converted field by field; truth
values and lengths become C integers, which are narrowed if need be; an empty list of unsaved files is
passed as a null pointer. A null string is known to have no text without asking.

The library is looked for until it has once been found. Loading looks at its version every time, and
refuses releases whose cursor kinds are numbered differently.
-/

namespace HandleGraph.Clang

variable {τ : Type}

inductive LibraryCall where
  | called (f : Entry)
  | visited (c : CXCursor) (shown : Nat) (stopped : Bool)
deriving DecidableEq

/-- The state of a library, with the calls made of it so far. -/
structure Linked (τ : Type) where
  library : τ
  calls : List LibraryCall
  /-- The library has been found. -/
  loaded : Bool

def call (L : Library τ) (f : Entry) : StateM (Linked τ) f.Result := fun s =>
  let (result, library) := L.call f s.library
  (result, { s with library, calls := s.calls ++ [.called f] })

def toCX (c : CursorHandle) : CXCursor := ⟨c.kind, c.xdata, c.data0, c.data1, c.data2⟩

def ofCX (c : CXCursor) : CursorHandle := ⟨c.kind, c.xdata, c.data0, c.data1, c.data2⟩

@[simp] theorem ofCX_toCX (c : CursorHandle) : ofCX (toCX c) = c := rfl

@[simp] theorem toCX_ofCX (c : CXCursor) : toCX (ofCX c) = c := rfl

def toCXString (s : StringHandle) : CXString := ⟨s.data, s.flags⟩

def ofCXString (s : CXString) : StringHandle := ⟨s.data, s.privateFlags⟩

@[simp] theorem ofCXString_toCXString (s : StringHandle) : ofCXString (toCXString s) = s := rfl

def toCInt (b : Bool) : Int32 := if b then 1 else 0

def toCXUnsavedFile (f : NativeUnsavedFile) : CXUnsavedFile :=
  ⟨f.path, f.contents, UInt64.ofNat f.contents.length⟩

/-- The pointer to unsaved files, null when there are none. -/
def unsavedPointer (files : List NativeUnsavedFile) : Option (List CXUnsavedFile) :=
  if files.isEmpty then none else some (files.map toCXUnsavedFile)

def unsavedCount (files : List NativeUnsavedFile) : UInt32 := UInt32.ofNat files.length

def readString (L : Library τ) (s : StringHandle) : StateM (Linked τ) (Option String) :=
  if s.isNull then return none
  else do return (← call L (.getCString (toCXString s))).map CString.text

def answer (L : Library τ) : (q : Query) → StateM (Linked τ) q.Answer
  | .createIndex options => do
    return ⟨← call L (.createIndex (toCInt options.excludeDeclarationsFromPch)
      (toCInt options.displayDiagnostics))⟩
  | .disposeIndex index => call L (.disposeIndex index.address)
  | .parse index path args unsaved options => do
    return ⟨← call L (.parseTranslationUnit index.address path args (Int32.ofNat args.length)
      (unsavedPointer unsaved) (unsavedCount unsaved) options)⟩
  | .load index path => do return ⟨← call L (.createTranslationUnit index.address path)⟩
  | .defaultReparseOptions unit => call L (.defaultReparseOptions unit.address)
  | .reparse unit unsaved options =>
    call L (.reparseTranslationUnit unit.address (unsavedCount unsaved) (unsavedPointer unsaved) options)
  | .defaultSaveOptions unit => call L (.defaultSaveOptions unit.address)
  | .save unit path options => call L (.saveTranslationUnit unit.address path options)
  | .disposeUnit unit => call L (.disposeTranslationUnit unit.address)
  | .unitSpelling unit => do return ofCXString (← call L (.getTranslationUnitSpelling unit.address))
  | .rootCursor unit => do return ofCX (← call L (.getTranslationUnitCursor unit.address))
  | .getFile unit path => do return ⟨← call L (.getFile unit.address path)⟩
  | .fileName file => do return ofCXString (← call L (.getFileName file.address))
  | .fileTime file => call L (.getFileTime file.address)
  | .readString s => readString L s
  | .disposeString s => call L (.disposeString (toCXString s))
  | .equalCursors a b => do return (← call L (.equalCursors (toCX a) (toCX b))) != 0
  | .hash c => call L (.hashCursor (toCX c))
  | .link l c => do return ofCX (← call L (.link l (toCX c)))
  | .text t c => do return ofCXString (← call L (.text t (toCX c)))
  | .test t c => do return (← call L (.test t (toCX c))) != 0
  | .argumentCount c => call L (.getNumArguments (toCX c))
  | .argument c index => do return ofCX (← call L (.getArgument (toCX c) index))
  | .bitWidth c => call L (.getFieldDeclBitWidth (toCX c))

/-- The callback that the library gets for a visitor. -/
def callback (visitor : Visitor) : CXVisitor := fun child =>
  match visitor (ofCX child) with
  | .stop => visitBreak
  | .proceed => visitContinue

def children (L : Library τ) (c : CursorHandle) (visitor : Visitor) :
    StateM (Linked τ) (List CursorHandle) := fun s =>
  let (offered, library) := L.children (toCX c) (callback visitor) s.library
  let (shown, stopped) := (callback visitor).walk offered
  (offered.map ofCX, { s with library, calls := s.calls ++ [.visited (toCX c) shown.length stopped] })

def engine (L : Library τ) : Engine (Linked τ) where
  answer := answer L
  children := children L

/-! ## Loading -/

def find (L : Library τ) : StateM (Linked τ) (Except String Unit) := fun s =>
  let (found, library) := L.find s.library
  (found, { s with library, loaded := found.isOk })

/-- The version text of a library, empty when it has none. -/
def version (L : Library τ) : StateM (Linked τ) String := do
  let s ← call L .getClangVersion
  let text ← call L (.getCString s)
  call L (.disposeString s)
  return text.elim "" CString.text

/-- Work on a library, in the world of a graph over it. -/
def consult {α : Type} (work : StateM (Linked τ) α) : Action (Linked τ) α := fun w =>
  let (a, engine) := work.run w.engine
  (a, { w with engine })

/-- Have a library found, unless it was found before. -/
def connect (L : Library τ) : Loading (Linked τ) Unit := do
  unless (← get).engine.loaded do
    match ← perform (consult (find L)) with
    | .ok () => perform (report .libraryLoaded)
    | .error reason => throw (.failed (.engineUnavailable reason))

/-- Look at the version of a library before it is used. -/
def checkVersion (L : Library τ) : Loading (Linked τ) Unit := do
  let text ← perform (consult (version L))
  match majorRelease? text with
  | .error panic => throw (.panicked panic)
  | .ok release =>
    match release.filter (minSupportedMajor ≤ ·) with
    | some major => perform (report (.versionAccepted major))
    | none =>
      perform (report (.versionRefused text))
      throw (.failed (.engineUnavailable (Text.quoted text ++ " is older than libclang " ++
        toString minSupportedMajor.toNat)))

def load (L : Library τ) : Loading (Linked τ) Unit := do
  connect L
  checkVersion L

end HandleGraph.Clang
