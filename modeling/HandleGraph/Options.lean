import HandleGraph.Flags

/-! # Options

How an index is made, and how sources are parsed and reparsed. The words of flags reach the engine as
they are, bits without a name included.
-/

namespace HandleGraph

def parseFlags : FlagFamily where
  name := "ParseOptions"
  named := [
    ("DETAILED_PREPROCESSING_RECORD", 0x0001),
    ("INCOMPLETE", 0x0002),
    ("PRECOMPILED_PREAMBLE", 0x0004),
    ("CACHE_COMPLETION_RESULTS", 0x0008),
    ("FOR_SERIALIZATION", 0x0010),
    ("CXX_CHAINED_PCH", 0x0020),
    ("SKIP_FUNCTION_BODIES", 0x0040),
    ("INCLUDE_BRIEF_COMMENTS_IN_CODE_COMPLETION", 0x0080),
    ("CREATE_PREAMBLE_ON_FIRST_PARSE", 0x0100),
    ("KEEP_GOING", 0x0200),
    ("SINGLE_FILE_PARSE", 0x0400),
    ("LIMIT_SKIP_FUNCTION_BODIES_TO_PREAMBLE", 0x0800),
    ("INCLUDE_ATTRIBUTED_TYPES", 0x1000),
    ("VISIT_IMPLICIT_ATTRIBUTES", 0x2000),
    ("IGNORE_NON_ERRORS_FROM_INCLUDED_FILES", 0x4000),
    ("RETAIN_EXCLUDED_CONDITIONAL_BLOCKS", 0x8000)]

/-- The flags for reparsing, none of which has a name. -/
def reparseFlags : FlagFamily where
  name := "ReparseOptions"
  named := []

abbrev ParseOptions := Flags parseFlags

abbrev ReparseOptions := Flags reparseFlags

structure IndexOptions where
  /-- Leave out declarations that come from precompiled headers. -/
  excludeDeclarationsFromPch : Bool := false
  /-- Let the engine print diagnostics. -/
  displayDiagnostics : Bool := false
deriving DecidableEq, Repr

namespace IndexOptions

/-- The options that leave out declarations from precompiled headers. -/
def excludingPchDeclarations : IndexOptions where
  excludeDeclarationsFromPch := true

def describe (o : IndexOptions) : String :=
  "IndexOptions \x7b exclude_declarations_from_pch: " ++ toString o.excludeDeclarationsFromPch ++
    ", display_diagnostics: " ++ toString o.displayDiagnostics ++ " \x7d"

end IndexOptions

end HandleGraph
