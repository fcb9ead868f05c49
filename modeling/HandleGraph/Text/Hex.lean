/-! # Hexadecimal text

Numbers and bytes in lowercase hexadecimal.
-/

namespace HandleGraph.Text

/-- A number in lowercase hexadecimal, without leading zeros. -/
def hex (n : Nat) : String := String.ofList (Nat.toDigits 16 n)

/-- An address as debuggers print it: `0x2a`. -/
def address (n : Nat) : String := "0x" ++ hex n

def hexBytes (bytes : List UInt8) : String :=
  String.ofList <| bytes.flatMap fun b => [(b.toNat / 16).digitChar, (b.toNat % 16).digitChar]

end HandleGraph.Text
