/-! # UTF-8

Bytes are cut into parts: each part is one encoded character or a maximal piece of ill-formed input.
A strict reading refuses the latter, a lossy reading shows each of them as U+FFFD. Every byte is in
exactly one part, so a lossy reading never loses a well-formed character.
-/

namespace HandleGraph

/-- Raw bytes, as paths and file contents hold them. -/
abbrev Bytes := List UInt8

namespace Text

/-- Read the `count` continuation bytes of a sequence whose bits so far are `acc`. The first of them
must lie in `low..high`. The result is the character, unless the sequence breaks off, and what follows. -/
def readContinuation : (count low high acc : Nat) → Bytes → Option Char × Bytes
  | 0, _, _, acc, rest => (some (Char.ofNat acc), rest)
  | _ + 1, _, _, _, [] => (none, [])
  | count + 1, low, high, acc, b :: rest =>
    if low ≤ b.toNat ∧ b.toNat ≤ high then
      readContinuation count 0x80 0xBF (acc * 64 + b.toNat % 64) rest
    else (none, b :: rest)

/-- Read one part that starts with the byte `lead`: a character, or `none` for an ill-formed piece. -/
def readPart (lead : UInt8) (rest : Bytes) : Option Char × Bytes :=
  let n := lead.toNat
  if n < 0x80 then (some (Char.ofNat n), rest)
  else if n < 0xC2 then (none, rest)
  else if n < 0xE0 then readContinuation 1 0x80 0xBF (n % 32) rest
  else if n < 0xF0 then
    readContinuation 2 (if n = 0xE0 then 0xA0 else 0x80) (if n = 0xED then 0x9F else 0xBF) (n % 16) rest
  else if n < 0xF5 then
    readContinuation 3 (if n = 0xF0 then 0x90 else 0x80) (if n = 0xF4 then 0x8F else 0xBF) (n % 8) rest
  else (none, rest)

private theorem length_readContinuation_le (count low high acc : Nat) (bytes : Bytes) :
    (readContinuation count low high acc bytes).2.length ≤ bytes.length := by
  induction bytes generalizing count low high acc with
  | nil => cases count <;> simp [readContinuation]
  | cons b rest ih =>
    cases count with
    | zero => simp [readContinuation]
    | succ count =>
      simp only [readContinuation]
      split
      · exact Nat.le_succ_of_le (ih ..)
      · exact Nat.le_refl _

private theorem length_readPart_le (lead : UInt8) (rest : Bytes) :
    (readPart lead rest).2.length ≤ rest.length := by
  simp only [readPart]
  repeat' split
  all_goals first | exact Nat.le_refl _ | exact length_readContinuation_le ..

/-- The parts of a byte string, in order: characters, and `none` for each ill-formed piece. -/
def parts : Bytes → List (Option Char)
  | [] => []
  | lead :: rest => (readPart lead rest).1 :: parts (readPart lead rest).2
termination_by bytes => bytes.length
decreasing_by exact Nat.lt_succ_of_le (length_readPart_le lead rest)

/-- The text of a byte string in which each ill-formed piece becomes U+FFFD. -/
def lossy (bytes : Bytes) : String :=
  String.ofList ((parts bytes).map (·.getD '\uFFFD'))

def decode? (bytes : Bytes) : Option String :=
  ((parts bytes).mapM id).map String.ofList

def encode (text : String) : Bytes := text.toList.flatMap String.utf8EncodeChar

end Text

end HandleGraph
