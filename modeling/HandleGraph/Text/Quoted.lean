import HandleGraph.Text.DefaultIgnorable
import HandleGraph.Text.GraphemeExtend
import HandleGraph.Text.Hex
import HandleGraph.Text.Printable

/-! # Quoted text

Text between double quotes, with escapes for whatever a reader of a log could not see: quotes,
backslashes and the common controls by a backslash and a letter; other unprintable characters, those
that are ignored by default, and marks that would join the character before them by their code point.
-/

namespace HandleGraph.Text

/-- Whether a character shows inside quotes as it is. -/
def isPlain (c : Char) : Bool := isPrintable c && !isDefaultIgnorable c && !isGraphemeExtend c

/-- The characters that stand for one character inside quotes. -/
def quotedChar (c : Char) : List Char :=
  match c with
  | '\x00' => ['\\', '0']
  | '\t' => ['\\', 't']
  | '\r' => ['\\', 'r']
  | '\n' => ['\\', 'n']
  | '"' => ['\\', '"']
  | '\\' => ['\\', '\\']
  | _ =>
    if isPlain c then [c]
    else ['\\', 'u', '\x7b'] ++ Nat.toDigits 16 c.toNat ++ ['\x7d']

/-- Text in double quotes, with escapes. A single quote stands for itself. -/
def quoted (text : String) : String :=
  String.ofList ('"' :: text.toList.flatMap quotedChar ++ ['"'])

end HandleGraph.Text
