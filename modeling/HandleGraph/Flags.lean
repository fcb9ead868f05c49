import HandleGraph.Text.Hex

/-! # Sets of flags

Sets of bits in a 32-bit word, some of which have names. Bits without a name are members like any
others: they are kept, compared and passed on.
-/

namespace HandleGraph

/-- A family of flags: its name and its named bits, in order of declaration. -/
structure FlagFamily where
  name : String
  named : List (String × UInt32)

/-- A set of flags of one family. -/
structure Flags (F : FlagFamily) where
  bits : UInt32
deriving DecidableEq, Repr

namespace Flags

variable {F : FlagFamily}

def none : Flags F := ⟨0⟩

def all : Flags F := ⟨0xFFFFFFFF⟩

def isEmpty (a : Flags F) : Bool := a.bits == 0

def isAll (a : Flags F) : Bool := a == all

def union (a b : Flags F) : Flags F := ⟨a.bits ||| b.bits⟩

def inter (a b : Flags F) : Flags F := ⟨a.bits &&& b.bits⟩

def diff (a b : Flags F) : Flags F := ⟨a.bits &&& ~~~b.bits⟩

def symmDiff (a b : Flags F) : Flags F := ⟨a.bits ^^^ b.bits⟩

def compl (a : Flags F) : Flags F := ⟨~~~a.bits⟩

def contains (a b : Flags F) : Bool := a.inter b == b

def intersects (a b : Flags F) : Bool := !(a.inter b).isEmpty

/-- The set of some bits, if all of them belong to the family. Every bit does. -/
def ofBits? (bits : UInt32) : Option (Flags F) := if bits &&& ~~~(all : Flags F).bits = 0 then some ⟨bits⟩ else .none

/-- The set of those bits that belong to the family. -/
def ofBitsTruncate (bits : UInt32) : Flags F := ⟨bits &&& (all : Flags F).bits⟩

def names (a : Flags F) : List (String × UInt32) := F.named.filter fun (_, bit) => a.contains ⟨bit⟩

def unnamed (a : Flags F) : Flags F := a.names.foldl (fun rest (_, bit) => rest.diff ⟨bit⟩) a

def ofName? (name : String) : Option (Flags F) := (F.named.lookup name).map Flags.mk

/-- A set in a debugging text: the names, then the rest in hexadecimal, which is left out if there are
names and no rest. -/
def describe (a : Flags F) : String :=
  let rest := if a.unnamed.isEmpty && !a.names.isEmpty then [] else [Text.address a.unnamed.bits.toNat]
  F.name ++ "(" ++ " | ".intercalate (a.names.map (·.1) ++ rest) ++ ")"

end Flags

end HandleGraph
