import HandleGraph.Text.LetterCase
import HandleGraph.Text.UpperMapping

/-! # Names of kinds

The name of a kind is its enumerator in capitals, words parted by underscores. A word starts at a
capital that follows a small letter or comes before one, so runs of capitals stay together. `ObjC` is
one word although its letters' cases would split it, unless a small letter follows.
-/

namespace HandleGraph.KindName

open Text

/-- What a scan knows of the characters it has passed. -/
inductive Context where
  /-- Nothing has been read. -/
  | start
  /-- The last character was a small letter. -/
  | afterSmall
  /-- A compound word has just ended. -/
  | afterCompound
  /-- The last character was anything else. -/
  | afterOther
deriving DecidableEq, Repr

/-- Whether the characters go on with a small letter. -/
def smallFollows (rest : List Char) : Bool := rest.head?.any isLowercase

/-- Whether an underscore goes before the capital `c`. -/
def breaksBefore (context : Context) (rest : List Char) : Bool :=
  match context with
  | .start => false
  | .afterSmall | .afterCompound => true
  | .afterOther => smallFollows rest

/-- The context after reading the character `c`. -/
def contextAfter (c : Char) : Context := if isLowercase c then .afterSmall else .afterOther

/-- What is written for the character `c`, before `rest` and outside compound words. -/
def emit (context : Context) (c : Char) (rest : List Char) : List Char :=
  if isUppercase c then
    if breaksBefore context rest then ['_', c] else [c]
  else upper c

/-- The name spelt by the characters still to be read. -/
def scan (context : Context) : List Char → List Char
  | [] => []
  | 'O' :: 'b' :: 'j' :: 'C' :: rest =>
    if smallFollows rest then
      emit context 'O' ('b' :: 'j' :: 'C' :: rest) ++
        scan (contextAfter 'O') ('b' :: 'j' :: 'C' :: rest)
    else
      (if context = .start then [] else ['_']) ++ ['O', 'B', 'J', 'C'] ++ scan .afterCompound rest
  | c :: rest => emit context c rest ++ scan (contextAfter c) rest

/-- The name of a kind, from its enumerator. -/
def normalize (token : String) : String := String.ofList (scan .start token.toList)

end HandleGraph.KindName
