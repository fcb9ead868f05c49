import HandleGraph.SlotMap
import Mathlib.Data.String.Basic
import Mathlib.Order.Basic

/-! # Slots in their order

The entries of a slot map are in strictly ascending order of their names, whatever is done with it. So a
name stands for one value, and to fill or to empty a slot is to add or to remove that value.
-/

namespace HandleGraph.SlotMap

variable {α : Type}

/-- The names of the entries are strictly ascending. -/
def Ordered (m : SlotMap α) : Prop := m.entries.Pairwise fun first second => first.1 < second.1

theorem ordered_empty : (empty : SlotMap α).Ordered := List.Pairwise.nil

theorem Ordered.erase {m : SlotMap α} (ordered : m.Ordered) (name : String) : (m.erase name).Ordered :=
  List.Pairwise.filter _ ordered

private theorem mem_insertEntry {name : String} {value : α} {entries : List (String × α)}
    {entry : String × α} (member : entry ∈ insertEntry name value entries) :
    entry = (name, value) ∨ entry ∈ entries := by
  induction entries with
  | nil => simpa [insertEntry] using member
  | cons first rest ih =>
    obtain ⟨other, held⟩ := first
    simp only [insertEntry] at member
    split at member
    · rcases List.mem_cons.mp member with here | later
      · exact .inl here
      · exact .inr (List.mem_cons_of_mem _ later)
    · split at member
      · exact List.mem_cons.mp member
      · rcases List.mem_cons.mp member with here | later
        · exact .inr (here ▸ List.mem_cons_self)
        · exact (ih later).imp_right (List.mem_cons_of_mem _)

theorem Ordered.insert {m : SlotMap α} (ordered : m.Ordered) (name : String) (value : α) :
    (m.insert name value).Ordered := by
  obtain ⟨entries⟩ := m
  change (insertEntry name value entries).Pairwise _
  induction entries with
  | nil => exact List.pairwise_singleton _ _
  | cons first rest ih =>
    obtain ⟨other, held⟩ := first
    obtain ⟨above, later⟩ := List.pairwise_cons.mp ordered
    simp only [insertEntry]
    split_ifs with same before
    · subst same
      exact List.pairwise_cons.mpr ⟨above, later⟩
    · refine List.pairwise_cons.mpr ⟨?_, ordered⟩
      rintro entry member
      rcases List.mem_cons.mp member with rfl | later
      · exact before
      · exact before.trans (above entry ‹_›)
    · have after : other < name := lt_of_le_of_ne (not_lt.mp before) (Ne.symm same)
      refine List.pairwise_cons.mpr ⟨fun entry member => ?_, ih later⟩
      rcases mem_insertEntry member with rfl | held
      · exact after
      · exact above entry held

private theorem filter_eq_self_of_above {name : String} {entries : List (String × α)}
    (above : ∀ entry ∈ entries, name < entry.1) : entries.filter (·.1 ≠ name) = entries :=
  List.filter_eq_self.mpr fun entry member => by simpa using (above entry member).ne'

/-- A filled slot adds its value to those of the other slots. -/
theorem Ordered.values_insert {m : SlotMap α} (ordered : m.Ordered) (name : String) (value : α) :
    (m.insert name value).values.Perm (value :: (m.erase name).values) := by
  obtain ⟨entries⟩ := m
  refine List.Perm.map (·.2) (?_ : (insertEntry name value entries).Perm
    ((name, value) :: entries.filter (·.1 ≠ name)))
  induction entries with
  | nil => exact .refl _
  | cons first rest ih =>
    obtain ⟨other, held⟩ := first
    obtain ⟨above, ordered⟩ := List.pairwise_cons.mp ordered
    simp only [insertEntry]
    split_ifs with same before
    · subst same
      rw [List.filter_cons_of_neg (by simp), filter_eq_self_of_above above]
    · rw [filter_eq_self_of_above]
      rintro entry member
      rcases List.mem_cons.mp member with rfl | later
      · exact before
      · exact before.trans (above entry later)
    · rw [List.filter_cons_of_pos (by simpa using Ne.symm same)]
      exact ((ih ordered).cons _).trans (.swap _ _ _)

/-- What is in a slot is its value, besides those of the other slots. -/
theorem Ordered.values_erase {m : SlotMap α} (ordered : m.Ordered) {name : String} {value : α}
    (present : m.find? name = some value) : m.values.Perm (value :: (m.erase name).values) := by
  obtain ⟨entries⟩ := m
  refine List.Perm.map (·.2) (?_ : entries.Perm ((name, value) :: entries.filter (·.1 ≠ name)))
  change entries.lookup name = some value at present
  induction entries with
  | nil => cases present
  | cons first rest ih =>
    obtain ⟨other, held⟩ := first
    obtain ⟨above, ordered⟩ := List.pairwise_cons.mp ordered
    rw [lookup_cons_if] at present
    split_ifs at present with same
    · subst same
      obtain rfl := Option.some.inj present
      rw [List.filter_cons_of_neg (by simp), filter_eq_self_of_above above]
    · rw [List.filter_cons_of_pos (by simpa using Ne.symm same)]
      exact ((ih ordered present).cons _).trans (.swap _ _ _)

/-- An emptied slot holds nothing, and no other slot changes. -/
theorem find?_erase (m : SlotMap α) (name other : String) :
    (m.erase name).find? other = if other = name then none else m.find? other := by
  obtain ⟨entries⟩ := m
  change (entries.filter (·.1 ≠ name)).lookup other = if other = name then none else entries.lookup other
  induction entries with
  | nil => simp
  | cons first rest ih =>
    obtain ⟨key, held⟩ := first
    by_cases here : key = name
    · rw [List.filter_cons_of_neg (by simp [here]), ih, lookup_cons_if, here]
      split_ifs <;> rfl
    · rw [List.filter_cons_of_pos (by simpa using here), lookup_cons_if, lookup_cons_if, ih]
      split_ifs with same other <;> first | rfl | exact absurd (same.symm.trans other) here

theorem erase_of_find?_none {m : SlotMap α} {name : String} (absent : m.find? name = none) :
    m.erase name = m := by
  obtain ⟨entries⟩ := m
  refine congrArg SlotMap.mk (List.filter_eq_self.mpr fun entry member => ?_)
  have apart := List.lookup_eq_none_iff.mp absent entry member
  exact decide_eq_true (Ne.symm (by simpa using apart))

/-- The values are those that the slots hold. -/
theorem Ordered.mem_values_iff {m : SlotMap α} (ordered : m.Ordered) {value : α} :
    value ∈ m.values ↔ ∃ name, m.find? name = some value := by
  constructor
  · obtain ⟨entries⟩ := m
    change value ∈ entries.map (·.2) → ∃ name, entries.lookup name = some value
    intro member
    induction entries with
    | nil => cases member
    | cons first rest ih =>
      obtain ⟨key, held⟩ := first
      obtain ⟨above, later⟩ := List.pairwise_cons.mp ordered
      rcases List.mem_cons.mp member with rfl | member
      · exact ⟨key, List.lookup_cons_self⟩
      · obtain ⟨name, present⟩ := ih later member
        refine ⟨name, ?_⟩
        have apart : name ≠ key := by
          rintro rfl
          have none : rest.lookup name = none :=
            List.lookup_eq_none_iff.mpr fun entry member => by simpa using (above entry member).ne
          exact nomatch none.symm.trans present
        rw [lookup_cons_if, if_neg apart, present]
  · rintro ⟨name, present⟩
    exact (ordered.values_erase present).mem_iff.mpr List.mem_cons_self

end HandleGraph.SlotMap
