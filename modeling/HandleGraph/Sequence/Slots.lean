import HandleGraph.Sequence.Iterator
import HandleGraph.SlotMap

/-! # Iterators side by side

One sequence and a family of iterators over it, under names. Steps that exhaust an iterator consume it.
-/

namespace HandleGraph.Sequence

inductive Step where
  | length
  | get (index : Nat)
  | getUnchecked (index : Nat)
  | front
  | back
  | toList
  | each
  | describe
  | iter (name : String)
  | next (name : String) (side : Side)
  | nth (name : String) (side : Side) (count : Nat)
  | remaining (name : String)
  | count (name : String)
  | last (name : String)
  | collect (name : String) (side : Side)
deriving DecidableEq, Repr

inductive Reply (α : Type) where
  | done
  | length (count : Nat) (isEmpty : Bool)
  | element (result : Except Error α)
  | elements (result : Except Error (List α))
  | results (all : List (Except Error α))
  | stepped (result : Option (Except Error α))
  | remaining (count : Nat)
  | count (n : Nat)
  | text (t : String)
  | noIterator (name : String)

variable {m : Type → Type} [Monad m] {α : Type}

def step (s : Sequence m α) (slots : SlotMap Iterator) : Step → m (Reply α × SlotMap Iterator)
  | .length => return (.length s.length s.isEmpty, slots)
  | .get index => return (.element (← s.get index), slots)
  | .getUnchecked index => return (.element (← s.getUnchecked index), slots)
  | .front => return (.element (← s.front), slots)
  | .back => return (.element (← s.back), slots)
  | .toList => return (.elements (← s.toList), slots)
  | .each => return (.results (← s.drain .front s.iter), slots)
  | .describe => return (.text s.describe, slots)
  | .iter name => return (.done, slots.insert name s.iter)
  | .next name side => onIterator name fun it => do
    let (result, rest) ← s.next side it
    return (.stepped result, slots.insert name rest)
  | .nth name side count => onIterator name fun it => do
    let (result, rest) ← s.nth side it count
    return (.stepped result, slots.insert name rest)
  | .remaining name => onIterator name fun it => return (.remaining it.remaining, slots)
  | .count name => onIterator name fun it =>
    return (.count (← s.drain .front it).length, slots.erase name)
  | .last name => onIterator name fun it =>
    return (.stepped (← s.drain .front it).getLast?, slots.erase name)
  | .collect name side => onIterator name fun it =>
    return (.elements (← s.collect side it), slots.erase name)
where
  /-- Work on the iterator of a name. -/
  onIterator (name : String) (work : Iterator → m (Reply α × SlotMap Iterator)) :
      m (Reply α × SlotMap Iterator) :=
    match slots.find? name with
    | some it => work it
    | none => return (.noIterator name, slots)

end HandleGraph.Sequence
