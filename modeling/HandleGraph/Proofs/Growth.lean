import HandleGraph.Proofs.Balance

/-! # What the books never forget

Calls are added and none is changed, a cell keeps its handle, and the cell of a unit keeps its index and
its generation. So whatever is known of a cell stays known of it.
-/

namespace HandleGraph

/-- Later books of the same world. -/
structure Books.Extends (b later : Books) : Prop where
  calls : b.calls <+: later.calls
  indexes : b.indexes.map (·.raw) <+: later.indexes.map (·.raw)
  units : b.units.map (fun cell => (cell.raw, cell.index)) <+:
    later.units.map fun cell => (cell.raw, cell.index)

private theorem prefix_of_eq {α : Type} {cells later : List α} (same : cells = later) : cells <+: later :=
  same ▸ List.prefix_rfl

/-- What is read off a cell stays the same in a list that goes on in what is read. -/
private theorem elim_of_prefix {α β γ : Type} {f : α → β} (g : β → γ) (absent : γ) {cells later : List α}
    (grown : cells.map f <+: later.map f) {k : Nat} (known : k < cells.length) :
    later[k]?.elim absent (fun cell => g (f cell)) = cells[k]?.elim absent fun cell => g (f cell) := by
  have bound : k < (cells.map f).length := by simpa using known
  have same : (later.map f)[k]? = (cells.map f)[k]? := by
    rw [List.getElem?_eq_getElem bound]
    exact List.prefix_iff_getElem?.mp grown k bound
  rw [List.getElem?_map, List.getElem?_map] at same
  have read := congrArg (Option.elim · absent g) same
  simpa only [Option.elim_map, Function.comp_def] using read

namespace Books.Extends

variable {b later last : Books}

theorem refl (b : Books) : b.Extends b := ⟨List.prefix_rfl, List.prefix_rfl, List.prefix_rfl⟩

theorem trans (first : b.Extends later) (second : later.Extends last) : b.Extends last :=
  ⟨first.calls.trans second.calls, first.indexes.trans second.indexes, first.units.trans second.units⟩

theorem units_length (grown : b.Extends later) : b.units.length ≤ later.units.length := by
  simpa using grown.units.length_le

/-- An index that is known keeps its handle. -/
theorem raw (grown : b.Extends later) {i : Index} (known : i.cell < b.indexes.length) :
    i.raw later = i.raw b :=
  elim_of_prefix (f := IndexCell.raw) id _ grown.indexes known

theorem unit_raw (grown : b.Extends later) {u : TranslationUnit} (known : u.cell < b.units.length) :
    u.raw later = u.raw b :=
  elim_of_prefix (f := fun cell : UnitCell => (cell.raw, cell.index)) Prod.fst _ grown.units known

/-- A unit that is known keeps the index it was made from. -/
theorem unit_index (grown : b.Extends later) {u : TranslationUnit} (known : u.cell < b.units.length) :
    u.index later = u.index b :=
  elim_of_prefix (f := fun cell : UnitCell => (cell.raw, cell.index)) Prod.snd _ grown.units known

/-- The handle of the index of a unit. -/
theorem index_raw (grown : b.Extends later) {u : TranslationUnit} (known : u.cell < b.units.length)
    (known' : (u.index b).cell < b.indexes.length) : (u.index later).raw later = (u.index b).raw b := by
  rw [grown.unit_index known, grown.raw known']

theorem renew (b : Books) (u : TranslationUnit) : b.Extends (b.renew u) :=
  ⟨List.prefix_rfl, List.prefix_rfl, prefix_of_eq (World.map_source_renew b u).symm⟩

/-- Books grow with every entry. -/
theorem entry {held after : Multiset Owner} (entered : Books.Entry (b, held) (later, after)) :
    b.Extends later := by
  cases entered with
  | call | receiveString | readString | disposeString =>
    exact ⟨List.prefix_append _ _, List.prefix_rfl, List.prefix_rfl⟩
  | openIndex =>
    refine ⟨List.prefix_append _ _, ?_, List.prefix_rfl⟩
    simp [World.addIndex, World.log]
  | openUnit =>
    refine ⟨List.prefix_append _ _, List.prefix_rfl, ?_⟩
    simp [World.addUnit, World.log]
  | ownIndex | disownIndex =>
    exact ⟨List.prefix_rfl, prefix_of_eq (World.map_raw_countIndex b _ _).symm, List.prefix_rfl⟩
  | @closeIndex _ _ i =>
    have same := World.map_raw_countIndex b i (· - 1)
    exact ⟨List.prefix_append _ _, prefix_of_eq same.symm, List.prefix_rfl⟩
  | ownUnit | disownUnit =>
    exact ⟨List.prefix_rfl, List.prefix_rfl, prefix_of_eq (World.map_source_countUnit b _ _).symm⟩
  | @closeUnit _ _ u =>
    have same := World.map_source_countUnit b u (· - 1)
    exact ⟨List.prefix_append _ _, List.prefix_rfl, prefix_of_eq same.symm⟩

/-- So they grow along every course. -/
theorem course {before after : Books × Multiset Owner} (ran : Books.Course before after) :
    before.1.Extends after.1 := by
  induction ran with
  | refl => exact refl _
  | tail _ entered ih => exact ih.trans (entry entered)

end Books.Extends

/-- No entry makes a new generation of a unit. -/
theorem Books.Entry.generation {b later : Books} {held after : Multiset Owner}
    (entered : Books.Entry (b, held) (later, after)) (v : TranslationUnit) :
    v.generation later = v.generation b := by
  cases entered with
  | call | receiveString | readString | disposeString | openIndex | ownIndex | disownIndex | closeIndex =>
    rfl
  | openUnit => exact World.generation_addUnit (World.log b _) _ _ v
  | ownUnit | disownUnit => exact b.generation_countUnit _ v _
  | @closeUnit _ _ u => exact b.generation_countUnit u v (· - 1)

/-- Generations move by reparsing only, which is no entry in the books. -/
theorem Books.Course.generation {before after : Books × Multiset Owner} (ran : Books.Course before after)
    (v : TranslationUnit) : v.generation after.1 = v.generation before.1 := by
  induction ran with
  | refl => rfl
  | tail _ entered ih => exact (Books.Entry.generation entered v).trans ih

end HandleGraph
