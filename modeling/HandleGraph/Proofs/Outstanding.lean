import HandleGraph.Proofs.Strings

/-! # What is outstanding

How often a handle was made and not disposed, going by the calls. In balanced books this is how many
cells of the handle have owners. So it stays the same as long as the same indexes and units are owned,
by however many owners.
-/

namespace HandleGraph

/-- Something of the engine that has to be disposed. -/
inductive Resource where
  | index (raw : IndexHandle)
  | unit (raw : UnitHandle)
  | string (t : StringHandle)
deriving DecidableEq

namespace Resource

def madeBy : Resource → Passage → Bool
  | .index raw, .indexMade made => made = raw
  | .unit raw, .unitMade made _ => made = raw
  | .string t, .stringMade made => made = t
  | _, _ => false

def disposal : Resource → Passage
  | .index raw => .indexDisposed raw
  | .unit raw => .unitDisposed raw
  | .string t => .stringDisposed t

end Resource

/-- How often a resource was made less how often it was disposed. -/
def outstanding (calls : List Call) (r : Resource) : Int :=
  (ledger calls).countP r.madeBy - (ledger calls).count r.disposal

/-- What was made and not disposed adds up over histories. -/
theorem outstanding_append (calls more : List Call) (r : Resource) :
    outstanding (calls ++ more) r = outstanding calls r + outstanding more r := by
  simp only [outstanding, ledger_append, List.countP_append, List.count_append]
  omega

/-- Calls that leave as much outstanding as there was before dispose what they make. -/
theorem outstanding_of_append {calls more : List Call} {r : Resource}
    (same : outstanding (calls ++ more) r = outstanding calls r) : outstanding more r = 0 := by
  rw [outstanding_append] at same
  omega

theorem countP_madeBy_index (calls : List Call) (raw : IndexHandle) :
    (ledger calls).countP (Resource.index raw).madeBy = (madeIndexes calls).count raw := by
  rw [madeIndexes, List.count_filterMap]
  refine List.countP_congr fun p _ => ?_
  cases p <;> simp [Resource.madeBy, Passage.madeIndex?]

theorem countP_madeBy_unit (calls : List Call) (raw : UnitHandle) :
    (ledger calls).countP (Resource.unit raw).madeBy = ((madeUnits calls).map Prod.fst).count raw := by
  rw [madeUnits, List.count, List.countP_map, List.countP_filterMap]
  refine List.countP_congr fun p _ => ?_
  cases p <;> simp [Resource.madeBy, Passage.madeUnit?]

private theorem countP_madeBy_string (calls : List Call) (t : StringHandle) :
    (ledger calls).countP (Resource.string t).madeBy = (ledger calls).count (.stringMade t) := by
  refine List.countP_congr fun p _ => ?_
  cases p <;> simp [Resource.madeBy]

/-- Where all strings are done with none is outstanding. -/
theorem StringsDone.outstanding_eq {calls : List Call} (done : StringsDone calls) (t : StringHandle) :
    outstanding calls (.string t) = 0 := by
  rw [outstanding, countP_madeBy_string, Resource.disposal, done.disposed, sub_self]

/-! ## Cells in use -/

private theorem countP_alike {α : Type} {p : α → Bool} {cells later : List α}
    (alike : ∀ k : Nat, later[k]?.any p = cells[k]?.any p) : later.countP p = cells.countP p := by
  induction cells generalizing later with
  | nil =>
    refine List.countP_eq_zero.mpr fun cell member => ?_
    obtain ⟨k, present⟩ := List.mem_iff_getElem?.mp member
    have none := alike k
    rw [present] at none
    simpa using none
  | cons first rest ih =>
    cases later with
    | nil =>
      have none : ∀ k : Nat, rest[k]?.any p = false := fun k => by simpa using (alike (k + 1)).symm
      have here : p first = false := by simpa using (alike 0).symm
      have empty : ([] : List α).countP p = rest.countP p := ih (by simpa using none)
      rw [List.countP_cons_of_neg (by simp [here]), ← empty]
    | cons head tail =>
      have here : p head = p first := by simpa using alike 0
      rw [List.countP_cons, List.countP_cons, here, ih fun k => by simpa using alike (k + 1)]

private theorem countP_sub {α : Type} (cells : List α) (p q : α → Bool) :
    (cells.countP p : Int) - cells.countP (fun cell => p cell && !q cell) =
      cells.countP fun cell => p cell && q cell := by
  induction cells with
  | nil => rfl
  | cons first rest ih =>
    simp only [List.countP_cons]
    cases p first <;> cases q first <;> simp <;> omega

namespace Books.Balanced

variable {b later : Books} {held after : Multiset Owner}

/-- An index is outstanding as often as cells of it are in use. -/
theorem outstanding_index (balanced : b.Balanced held) (raw : IndexHandle) :
    outstanding b.calls (.index raw) =
      b.indexes.countP fun cell => decide (cell.raw = raw) && decide (0 < cell.owners) := by
  rw [outstanding, countP_madeBy_index, balanced.indexes_made, Resource.disposal, balanced.indexes_disposed,
    List.count, List.countP_map, ← countP_sub]
  congr 2
  exact List.countP_congr fun cell _ => by simp

/-- A unit is outstanding as often as cells of it are in use. -/
theorem outstanding_unit (balanced : b.Balanced held) (raw : UnitHandle) :
    outstanding b.calls (.unit raw) =
      b.units.countP fun cell => decide (cell.raw = raw) && decide (0 < cell.owners) := by
  rw [outstanding, countP_madeBy_unit, balanced.units_made, Resource.disposal, balanced.units_disposed,
    List.count, List.map_map, List.countP_map, ← countP_sub]
  congr 2
  exact List.countP_congr fun cell _ => by simp

/-- A unit has owners just when a share of it is held. -/
theorem unit_owned_iff (balanced : b.Balanced held) (u : TranslationUnit) :
    0 < u.owners b ↔ .unit u ∈ held := by
  rw [balanced.unit_owners, Multiset.count_pos]

/-- An index is in use when it is owned or a unit in use is of it. -/
theorem owned_iff (balanced : b.Balanced held) (i : Index) :
    0 < i.owners b ↔ .index i ∈ held ∨ ∃ u : TranslationUnit, 0 < u.owners b ∧ u.index b = i := by
  rw [balanced.index_owners, Nat.add_pos_iff_pos_or_pos, Multiset.count_pos, World.unitsOf, List.countP_pos_iff]
  refine or_congr_right ⟨?_, ?_⟩
  · rintro ⟨cell, member, unit⟩
    obtain ⟨rfl, owned⟩ : cell.index = i ∧ 0 < cell.owners := by simpa using unit
    obtain ⟨k, present⟩ := List.mem_iff_getElem?.mp member
    exact ⟨⟨k⟩, by simpa [TranslationUnit.owners, present] using owned,
      by simp [TranslationUnit.index, present]⟩
  · rintro ⟨u, owned, rfl⟩
    obtain ⟨cell, present, -, index, owners⟩ := b.exists_unit_cell_of_owned owned
    exact ⟨cell, List.mem_of_getElem? present, by simp [index, owners, owned]⟩

/-- As long as the same is owned, the same units are in use. -/
private theorem unit_owned_same (balanced : b.Balanced held) (balanced' : later.Balanced after)
    (same : ∀ o, o ∈ after ↔ o ∈ held) (u : TranslationUnit) : 0 < u.owners later ↔ 0 < u.owners b := by
  rw [balanced'.unit_owned_iff, balanced.unit_owned_iff, same]

private theorem owned_same (balanced : b.Balanced held) (balanced' : later.Balanced after)
    (grown : b.Extends later) (same : ∀ o, o ∈ after ↔ o ∈ held) (i : Index) :
    0 < i.owners later ↔ 0 < i.owners b := by
  rw [balanced'.owned_iff, balanced.owned_iff, same]
  refine or_congr_right (exists_congr fun u => ?_)
  rw [unit_owned_same balanced balanced' same]
  refine and_congr_right fun owned => ?_
  obtain ⟨cell, present, -⟩ := b.exists_unit_cell_of_owned owned
  rw [grown.unit_index (List.getElem?_eq_some_iff.mp present).1]

private theorem index_any_eq (b : Books) (k : Nat) (raw : IndexHandle) :
    (b.indexes[k]?.any fun cell => decide (cell.raw = raw) && decide (0 < cell.owners)) =
      decide (Index.raw ⟨k⟩ b = raw ∧ 0 < Index.owners ⟨k⟩ b) := by
  cases present : b.indexes[k]? <;> simp [Index.raw, Index.owners, present]

private theorem unit_any_eq (b : Books) (k : Nat) (raw : UnitHandle) :
    (b.units[k]?.any fun cell => decide (cell.raw = raw) && decide (0 < cell.owners)) =
      decide (TranslationUnit.raw ⟨k⟩ b = raw ∧ 0 < TranslationUnit.owners ⟨k⟩ b) := by
  cases present : b.units[k]? <;> simp [TranslationUnit.raw, TranslationUnit.owners, present]

/-- As long as the same is owned, as much is outstanding. -/
theorem outstanding_same (balanced : b.Balanced held) (balanced' : later.Balanced after)
    (grown : b.Extends later) (same : ∀ o, o ∈ after ↔ o ∈ held) {r : Resource}
    (native : ∀ t, r ≠ .string t) : outstanding later.calls r = outstanding b.calls r := by
  cases r with
  | string t => exact absurd rfl (native t)
  | index raw =>
    rw [balanced.outstanding_index, balanced'.outstanding_index, countP_alike]
    intro k
    rw [index_any_eq, index_any_eq]
    refine decide_eq_decide.mpr ?_
    rw [owned_same balanced balanced' grown same]
    refine and_congr_left fun owned => ?_
    rw [grown.raw (b.known_of_owned owned)]
  | unit raw =>
    rw [balanced.outstanding_unit, balanced'.outstanding_unit, countP_alike]
    intro k
    rw [unit_any_eq, unit_any_eq]
    refine decide_eq_decide.mpr ?_
    rw [unit_owned_same balanced balanced' same]
    refine and_congr_left fun owned => ?_
    obtain ⟨cell, present, -⟩ := b.exists_unit_cell_of_owned owned
    rw [grown.unit_raw (List.getElem?_eq_some_iff.mp present).1]

end Books.Balanced

end HandleGraph
