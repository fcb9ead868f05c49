import HandleGraph.Error

/-! # Version texts

The release number in the text by which a library names its version. It follows the first occurrence
of the word `version` and a space. Texts without such a number, or with one that does not fit a 32-bit
word, have no release. Apple's releases are numbered one behind; the addition that makes up for it is
checked, and reading stops where the sum does not fit.
-/

namespace HandleGraph.Clang

/-- What follows the first occurrence of `pattern`. -/
def afterFirst? (pattern : List Char) : List Char → Option (List Char)
  | [] => if pattern.isEmpty then some [] else none
  | c :: rest =>
    if pattern.isPrefixOf (c :: rest) then some ((c :: rest).drop pattern.length)
    else afterFirst? pattern rest

def decimalValue (digits : List Char) : Nat :=
  digits.foldl (fun value d => value * 10 + (d.toNat - '0'.toNat)) 0

/-- The 32-bit word that decimal digits spell, leading zeros allowed. -/
def decimalWord? (digits : List Char) : Option UInt32 :=
  if digits.isEmpty then none
  else if decimalValue digits < UInt32.size then some (UInt32.ofNat (decimalValue digits))
  else none

def checkedAdd (a b : UInt32) : Except Panic UInt32 :=
  if a.toNat + b.toNat < UInt32.size then .ok (a + b) else .error .overflow

/-- The number that a version text gives. -/
def statedMajor? (text : String) : Option UInt32 := do
  let rest ← afterFirst? "version ".toList text.toList
  decimalWord? (rest.takeWhile Char.isDigit)

/-- The release that a version text names. -/
def majorRelease? (text : String) : Except Panic (Option UInt32) :=
  match statedMajor? text with
  | none => .ok none
  | some major =>
    if "Apple".toList.isPrefixOf text.toList then some <$> checkedAdd major 1 else .ok (some major)

/-- The oldest release whose numbering of cursor kinds is the builtin one. -/
def minSupportedMajor : UInt32 := 16

end HandleGraph.Clang
