import HandleGraph.Text.Utf8

/-! # C strings

The strings that a C interface can carry: bytes that end at the first NUL, so none of them is a NUL.
-/

namespace HandleGraph

/-- A string of bytes without a NUL. -/
structure CString where
  bytes : Bytes
  no_nul : 0 ∉ bytes
deriving DecidableEq

namespace CString

/-- The C string with these bytes, unless one of them is a NUL. -/
def ofBytes? (bytes : Bytes) : Option CString :=
  if h : 0 ∈ bytes then none else some ⟨bytes, h⟩

/-- The bytes before the first NUL, which is how much a C interface reads. -/
def truncate (bytes : Bytes) : CString where
  bytes := bytes.takeWhile (· ≠ 0)
  no_nul member := by simpa using List.all_eq_true.mp List.all_takeWhile 0 member

/-- Bytes without a zero byte are not cut. -/
theorem truncate_eq_self {bytes : Bytes} (free : 0 ∉ bytes) : truncate bytes = ⟨bytes, free⟩ := by
  have kept : ∀ byte ∈ bytes, decide (byte ≠ 0) = true := fun byte member => by
    simpa using fun zero : byte = 0 => free (zero ▸ member)
  have whole : bytes.takeWhile (· ≠ 0) = bytes := by
    have onto : (bytes ++ []).takeWhile (· ≠ 0) = bytes ++ [] := List.takeWhile_append_of_pos kept
    rwa [List.append_nil] at onto
  rw [truncate, mk.injEq]
  exact whole

/-- The text of a C string, ill-formed pieces shown as U+FFFD. -/
def text (s : CString) : String := Text.lossy s.bytes

/-- Bytes are refused for a zero byte and for nothing else. -/
theorem ofBytes?_eq_none_iff {bytes : Bytes} : ofBytes? bytes = none ↔ 0 ∈ bytes := by
  simp [ofBytes?]

theorem bytes_of_ofBytes? {bytes : Bytes} {s : CString} (made : ofBytes? bytes = some s) :
    s.bytes = bytes := by
  unfold ofBytes? at made
  split at made
  · cases made
  · cases made; rfl

end CString

end HandleGraph
