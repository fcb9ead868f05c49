/-! # Named slots

A finite map from names to values, kept in ascending order of the names, by code point. The order
shows when a family of slots is taken down.
-/

namespace HandleGraph

/-- Values by name, in ascending order of the names. -/
structure SlotMap (α : Type) where
  entries : List (String × α)

namespace SlotMap

variable {α : Type}

def empty : SlotMap α := ⟨[]⟩

instance : Inhabited (SlotMap α) := ⟨empty⟩

def find? (m : SlotMap α) (name : String) : Option α := m.entries.lookup name

/-- Put an entry at its place among ordered entries, instead of one of the same name. -/
def insertEntry (name : String) (value : α) : List (String × α) → List (String × α)
  | [] => [(name, value)]
  | (other, held) :: rest =>
    if name = other then (name, value) :: rest
    else if name < other then (name, value) :: (other, held) :: rest
    else (other, held) :: insertEntry name value rest

def insert (m : SlotMap α) (name : String) (value : α) : SlotMap α :=
  ⟨insertEntry name value m.entries⟩

def erase (m : SlotMap α) (name : String) : SlotMap α :=
  ⟨m.entries.filter (·.1 ≠ name)⟩

def values (m : SlotMap α) : List α := m.entries.map (·.2)

@[simp] theorem find?_empty (name : String) : (empty : SlotMap α).find? name = none := rfl

theorem lookup_cons_if (key name : String) (held : α) (rest : List (String × α)) :
    ((key, held) :: rest).lookup name = if name = key then some held else rest.lookup name := by
  by_cases same : name = key
  · rw [if_pos same, same, List.lookup_cons_self]
  · rw [if_neg same, List.lookup_cons, beq_false_of_ne same]

private theorem lookup_insertEntry (entries : List (String × α)) (name other : String) (value : α) :
    (insertEntry name value entries).lookup other =
      if other = name then some value else entries.lookup other := by
  induction entries with
  | nil => rw [insertEntry, lookup_cons_if]
  | cons entry rest ih =>
    obtain ⟨key, held⟩ := entry
    simp only [insertEntry]
    split
    · next same => subst same; simp only [lookup_cons_if]; split <;> simp_all
    · split
      · rw [lookup_cons_if]
      · simp only [lookup_cons_if, ih]
        by_cases here : other = key
        · subst here; simp [Ne.symm ‹¬name = other›]
        · simp [here]

/-- A filled slot holds what was put there last, and no other slot changes. -/
theorem find?_insert (m : SlotMap α) (name other : String) (value : α) :
    (m.insert name value).find? other = if other = name then some value else m.find? other :=
  lookup_insertEntry ..

end SlotMap

end HandleGraph
