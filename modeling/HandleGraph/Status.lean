/-! # Status codes

The two enumerations of status codes that an engine returns. Codes without a name are kept, so that
reading a code and writing it back always gives the same integer.
-/

namespace HandleGraph

inductive EngineStatus where
  | success
  | failure
  | crashed
  | invalidArguments
  | astReadError
  | other (code : Int32)
deriving DecidableEq, Repr

namespace EngineStatus

def ofCode (code : Int32) : EngineStatus :=
  if code = 0 then .success
  else if code = 1 then .failure
  else if code = 2 then .crashed
  else if code = 3 then .invalidArguments
  else if code = 4 then .astReadError
  else .other code

def code : EngineStatus → Int32
  | .success => 0
  | .failure => 1
  | .crashed => 2
  | .invalidArguments => 3
  | .astReadError => 4
  | .other code => code

def message : EngineStatus → String
  | .success => "success"
  | .failure => "failure"
  | .crashed => "crashed"
  | .invalidArguments => "invalid arguments"
  | .astReadError => "AST read error"
  | .other code => "code " ++ toString code.toInt

def label : EngineStatus → String
  | .success => "Success"
  | .failure => "Failure"
  | .crashed => "Crashed"
  | .invalidArguments => "InvalidArguments"
  | .astReadError => "AstReadError"
  | .other code => "Other(" ++ toString code.toInt ++ ")"

/-- No code is lost, whether it is a known one or not. -/
@[simp] theorem code_ofCode (code : Int32) : (ofCode code).code = code := by
  unfold ofCode
  repeat' split
  all_goals simp_all [EngineStatus.code]

end EngineStatus

inductive SaveStatus where
  | saved
  | unknown
  | translationErrors
  | invalidTranslationUnit
  | other (code : Int32)
deriving DecidableEq, Repr

namespace SaveStatus

def ofCode (code : Int32) : SaveStatus :=
  if code = 0 then .saved
  else if code = 1 then .unknown
  else if code = 2 then .translationErrors
  else if code = 3 then .invalidTranslationUnit
  else .other code

def code : SaveStatus → Int32
  | .saved => 0
  | .unknown => 1
  | .translationErrors => 2
  | .invalidTranslationUnit => 3
  | .other code => code

/-- A status in a message: its code. -/
def message (status : SaveStatus) : String := toString status.code.toInt

def label : SaveStatus → String
  | .saved => "None"
  | .unknown => "Unknown"
  | .translationErrors => "TranslationErrors"
  | .invalidTranslationUnit => "InvalidTranslationUnit"
  | .other code => "Other(" ++ toString code.toInt ++ ")"

@[simp] theorem code_ofCode (code : Int32) : (ofCode code).code = code := by
  unfold ofCode
  repeat' split
  all_goals simp_all [SaveStatus.code]

end SaveStatus

end HandleGraph
