/-! # Ordered maps

Finite maps whose entries stay in the order in which their keys were first put in. Keys are the same when
`==` says so.
-/

namespace HandleGraph

/-- Values by key, in the order in which the keys came. -/
structure OrderedMap (κ α : Type) where
  entries : List (κ × α)
deriving DecidableEq, Repr

namespace OrderedMap

variable {κ α : Type} [BEq κ]

def empty : OrderedMap κ α := ⟨[]⟩

def find? (m : OrderedMap κ α) (key : κ) : Option α := (m.entries.find? (·.1 == key)).map (·.2)

/-- Put a value under a key. A key that is there already keeps its place. -/
def insert (m : OrderedMap κ α) (key : κ) (value : α) : OrderedMap κ α :=
  if m.entries.any (·.1 == key) then
    ⟨m.entries.map fun entry => if entry.1 == key then (entry.1, value) else entry⟩
  else ⟨m.entries ++ [(key, value)]⟩

/-- The values, in the order of their keys. -/
def values (m : OrderedMap κ α) : List α := m.entries.map (·.2)

/-- A key without a value is added at the end. -/
theorem insert_of_find?_none {m : OrderedMap κ α} {key : κ} (absent : m.find? key = none) (value : α) :
    (m.insert key value).entries = m.entries ++ [(key, value)] := by
  have new : m.entries.any (·.1 == key) = false := by
    simpa [find?, List.any_eq_false] using absent
  rw [insert, new]
  rfl

end OrderedMap

end HandleGraph
