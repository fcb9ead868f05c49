import HandleGraph.Text.Hex

/-! # Native handles

The values by which an engine names what it holds. A handle is plain data and owns nothing. Each kind
of handle has null values, which name nothing, and among them one sentinel. For pointers the two
coincide; strings and cursors have fields that the null test ignores.
-/

namespace HandleGraph

/-- A kind of handle with null values, one of which is the sentinel. -/
class NullHandle (H : Type) where
  /-- The sentinel: the value left where a handle was taken away. -/
  null : H
  /-- Whether a value names nothing. -/
  isNull : H → Bool
  isNull_null : isNull null = true

structure IndexHandle where
  address : UInt64
deriving DecidableEq, Repr

structure UnitHandle where
  address : UInt64
deriving DecidableEq, Repr

/-- The handle of a file, which belongs to its translation unit. -/
structure FileHandle where
  address : UInt64
deriving DecidableEq, Repr

/-- The handle of a string. The flags are the engine's own notes. -/
structure StringHandle where
  data : UInt64
  flags : UInt32
deriving DecidableEq, Repr

/-- A position in a syntax tree, by value. Only the engine knows what its fields mean. -/
structure CursorHandle where
  kind : Int32
  xdata : Int32
  data0 : UInt64
  data1 : UInt64
  data2 : UInt64
deriving DecidableEq, Repr

def nullCursorKind : Int32 := 70

instance : NullHandle IndexHandle where
  null := ⟨0⟩
  isNull h := h.address == 0
  isNull_null := rfl

instance : NullHandle UnitHandle where
  null := ⟨0⟩
  isNull h := h.address == 0
  isNull_null := rfl

instance : NullHandle FileHandle where
  null := ⟨0⟩
  isNull h := h.address == 0
  isNull_null := rfl

/-- A string is null when it has no data, whatever its flags. -/
instance : NullHandle StringHandle where
  null := ⟨0, 0⟩
  isNull h := h.data == 0
  isNull_null := rfl

/-- A cursor is null when it has the null kind and no data, whatever its `xdata`. -/
instance : NullHandle CursorHandle where
  null := ⟨nullCursorKind, 0, 0, 0, 0⟩
  isNull c := c.kind == nullCursorKind && c.data0 == 0 && c.data1 == 0 && c.data2 == 0
  isNull_null := rfl

namespace IndexHandle

abbrev isNull (h : IndexHandle) : Bool := NullHandle.isNull h

def describe (h : IndexHandle) : String := "RawIndex(" ++ Text.address h.address.toNat ++ ")"

end IndexHandle

namespace UnitHandle

abbrev isNull (h : UnitHandle) : Bool := NullHandle.isNull h

def describe (h : UnitHandle) : String := "RawTranslationUnit(" ++ Text.address h.address.toNat ++ ")"

end UnitHandle

namespace FileHandle

abbrev isNull (h : FileHandle) : Bool := NullHandle.isNull h

def describe (h : FileHandle) : String := "RawFile(" ++ Text.address h.address.toNat ++ ")"

end FileHandle

namespace StringHandle

abbrev isNull (h : StringHandle) : Bool := NullHandle.isNull h

def describe (h : StringHandle) : String :=
  "RawString \x7b data: " ++ Text.address h.data.toNat ++ ", private_flags: " ++
    toString h.flags.toNat ++ " \x7d"

end StringHandle

namespace CursorHandle

abbrev null : CursorHandle := NullHandle.null

abbrev isNull (c : CursorHandle) : Bool := NullHandle.isNull c

def describe (c : CursorHandle) : String :=
  "RawCursor \x7b kind: " ++ toString c.kind.toInt ++ ", xdata: " ++ toString c.xdata.toInt ++
    ", data: [" ++ Text.address c.data0.toNat ++ ", " ++ Text.address c.data1.toNat ++ ", " ++
    Text.address c.data2.toNat ++ "] \x7d"

end CursorHandle

end HandleGraph
