import HandleGraph.Engine.Basic

/-! # The C interface of libclang

The entry points that a graph needs, with their arguments and results as C has them: structures of
plain fields, pointers as addresses, truth values and counts as integers. A library is anything that
answers to these entry points; before they can be called it has to be found.
-/

namespace HandleGraph.Clang

structure CXCursor where
  kind : Int32
  xdata : Int32
  data0 : UInt64
  data1 : UInt64
  data2 : UInt64
deriving DecidableEq, Repr

structure CXString where
  data : UInt64
  privateFlags : UInt32
deriving DecidableEq, Repr

/-- The C structure of an unsaved file, with the memory that its pointers lead to. -/
structure CXUnsavedFile where
  filename : CString
  contents : Bytes
  length : UInt64
deriving DecidableEq

/-- A call of the library, except for the walk over children. -/
inductive Entry where
  | getClangVersion
  | createIndex (excludeDeclarationsFromPch displayDiagnostics : Int32)
  | disposeIndex (index : UInt64)
  | parseTranslationUnit (index : UInt64) (path : CString) (args : List CString) (argCount : Int32)
      (unsaved : Option (List CXUnsavedFile)) (unsavedCount : UInt32) (options : UInt32)
  | createTranslationUnit (index : UInt64) (path : CString)
  | defaultReparseOptions (unit : UInt64)
  | reparseTranslationUnit (unit : UInt64) (unsavedCount : UInt32)
      (unsaved : Option (List CXUnsavedFile)) (options : UInt32)
  | defaultSaveOptions (unit : UInt64)
  | saveTranslationUnit (unit : UInt64) (path : CString) (options : UInt32)
  | disposeTranslationUnit (unit : UInt64)
  | getTranslationUnitSpelling (unit : UInt64)
  | getTranslationUnitCursor (unit : UInt64)
  | getFile (unit : UInt64) (path : CString)
  | getFileName (file : UInt64)
  | getFileTime (file : UInt64)
  | getCString (s : CXString)
  | disposeString (s : CXString)
  | equalCursors (a b : CXCursor)
  | hashCursor (c : CXCursor)
  | link (l : Link) (c : CXCursor)
  | text (t : CursorText) (c : CXCursor)
  | test (t : CursorTest) (c : CXCursor)
  | getNumArguments (c : CXCursor)
  | getArgument (c : CXCursor) (index : UInt32)
  | getFieldDeclBitWidth (c : CXCursor)
deriving DecidableEq

namespace Entry

@[reducible] def Result : Entry → Type
  | .getClangVersion | .getTranslationUnitSpelling _ | .getFileName _ | .text .. => CXString
  | .createIndex .. | .parseTranslationUnit .. | .createTranslationUnit .. | .getFile .. => UInt64
  | .disposeIndex _ | .disposeTranslationUnit _ | .disposeString _ => Unit
  | .defaultReparseOptions _ | .defaultSaveOptions _ | .hashCursor _ => UInt32
  | .reparseTranslationUnit .. | .saveTranslationUnit .. => Int32
  | .getTranslationUnitCursor _ | .link .. | .getArgument .. => CXCursor
  | .getFileTime _ => Int64
  | .getCString _ => Option CString
  | .equalCursors .. | .test .. | .getNumArguments _ | .getFieldDeclBitWidth _ => Int32

def symbol : Entry → String
  | .getClangVersion => "clang_getClangVersion"
  | .createIndex .. => "clang_createIndex"
  | .disposeIndex _ => "clang_disposeIndex"
  | .parseTranslationUnit .. => "clang_parseTranslationUnit"
  | .createTranslationUnit .. => "clang_createTranslationUnit"
  | .defaultReparseOptions _ => "clang_defaultReparseOptions"
  | .reparseTranslationUnit .. => "clang_reparseTranslationUnit"
  | .defaultSaveOptions _ => "clang_defaultSaveOptions"
  | .saveTranslationUnit .. => "clang_saveTranslationUnit"
  | .disposeTranslationUnit _ => "clang_disposeTranslationUnit"
  | .getTranslationUnitSpelling _ => "clang_getTranslationUnitSpelling"
  | .getTranslationUnitCursor _ => "clang_getTranslationUnitCursor"
  | .getFile .. => "clang_getFile"
  | .getFileName _ => "clang_getFileName"
  | .getFileTime _ => "clang_getFileTime"
  | .getCString _ => "clang_getCString"
  | .disposeString _ => "clang_disposeString"
  | .equalCursors .. => "clang_equalCursors"
  | .hashCursor _ => "clang_hashCursor"
  | .link .canonical _ => "clang_getCanonicalCursor"
  | .link .semanticParent _ => "clang_getCursorSemanticParent"
  | .link .lexicalParent _ => "clang_getCursorLexicalParent"
  | .link .referenced _ => "clang_getCursorReferenced"
  | .link .definition _ => "clang_getCursorDefinition"
  | .text .spelling _ => "clang_getCursorSpelling"
  | .text .displayName _ => "clang_getCursorDisplayName"
  | .text .usr _ => "clang_getCursorUSR"
  | .text .briefComment _ => "clang_Cursor_getBriefCommentText"
  | .text .rawComment _ => "clang_Cursor_getRawCommentText"
  | .test .isDefinition _ => "clang_isCursorDefinition"
  | .test .isStaticMethod _ => "clang_CXXMethod_isStatic"
  | .test .isBitField _ => "clang_Cursor_isBitField"
  | .getNumArguments _ => "clang_Cursor_getNumArguments"
  | .getArgument .. => "clang_Cursor_getArgument"
  | .getFieldDeclBitWidth _ => "clang_getFieldDeclBitWidth"

end Entry

/-- A visitor at the C border: zero stops the walk. -/
abbrev CXVisitor := CXCursor → Int32

/-- The answer of a visitor that stops the walk. -/
def visitBreak : Int32 := 0

/-- The answer of a visitor that goes on with the next sibling. -/
def visitContinue : Int32 := 1

/-- The children that a visitor is shown, and whether it stopped the walk. -/
def CXVisitor.walk (visitor : CXVisitor) : List CXCursor → List CXCursor × Bool
  | [] => ([], false)
  | child :: rest =>
    if visitor child = visitBreak then ([child], true)
    else
      let (shown, stopped) := CXVisitor.walk visitor rest
      (child :: shown, stopped)

/-- A library with states in `τ`. -/
structure Library (τ : Type) where
  /-- Look for the library and load it. If that fails there is a reason. -/
  find : τ → Except String Unit × τ
  call : (f : Entry) → τ → f.Result × τ
  /-- The children on offer when a visitor walks over those of a cursor. -/
  children : CXCursor → CXVisitor → τ → List CXCursor × τ

end HandleGraph.Clang
