import HandleGraph.Proofs.Growth

/-! # Calls receive what is in use

At the moment of a call every handle that it receives is in use, going by the calls before it, and an
index is disposed only when all its units are. Both hold of all calls in balanced books, as long as the
engine returned no handle twice.
-/

namespace HandleGraph

/-- A call receives only what is in use. A string is told by its handle alone. -/
def inUse (calls : List Call) : HandleLaw where
  index := IndexInUse calls
  unit := UnitInUse calls
  file raw := raw.isNull = false ∧ ∃ unit, FileOf calls unit raw ∧ UnitInUse calls unit
  string s := s.isNull = false
  cursor raw := raw.isNull = false ∧ ∃ unit, CursorOf calls unit raw ∧ UnitInUse calls unit

/-- A call is in order after the calls before it. -/
structure Call.InOrder (before : List Call) (call : Call) : Prop where
  obeys : call.Obeys (inUse before)
  unitsFirst : ∀ raw, call.passage? = some (.indexDisposed raw) →
    ∀ unit, .unitMade unit raw ∈ ledger before → .unitDisposed unit ∈ ledger before

/-- Every call, with the calls before it, meets a condition. -/
def Throughout (p : List Call → Call → Prop) (calls : List Call) : Prop :=
  ∀ before call after, calls = before ++ call :: after → p before call

private theorem throughout_nil {p : List Call → Call → Prop} : Throughout p [] := by
  intro before call after split
  simp at split

/-- One call more has to keep the law when it is made, and the earlier ones as before. -/
theorem throughout_concat {p : List Call → Call → Prop} {calls : List Call} {call : Call} :
    Throughout p (calls ++ [call]) ↔ Throughout p calls ∧ p calls call := by
  constructor
  · intro all
    refine ⟨fun before other after split => all before other (after ++ [call]) ?_, all calls call [] rfl⟩
    simp [split]
  · rintro ⟨all, last⟩ before other after split
    rcases List.eq_nil_or_concat after with rfl | ⟨earlier, final, rfl⟩
    · obtain ⟨rfl, same⟩ := List.append_inj' split rfl
      obtain rfl := List.singleton_inj.mp same
      exact last
    · rw [List.concat_eq_append, ← List.cons_append, ← List.append_assoc] at split
      exact all before other earlier (List.append_inj' split rfl).1

/-- All calls are in order as long as handles are fresh. -/
abbrev OrderlyCalls : List Call → Prop :=
  Throughout fun before call => FreshHandles before → call.InOrder before

namespace Books.Balanced

variable {b : Books} {held : Multiset Owner}

/-- With fresh handles no two cells have the same index in them. -/
theorem handles_nodup (balanced : b.Balanced held) (fresh : FreshHandles b.calls) :
    (b.indexes.map (·.raw)).Nodup := by
  simpa only [balanced.indexes_made] using fresh.indexes

theorem unit_handles_nodup (balanced : b.Balanced held) (fresh : FreshHandles b.calls) :
    (b.units.map (·.raw)).Nodup := by
  simpa only [balanced.units_made, List.map_map, Function.comp_def] using fresh.units

/-- A cell of a unit tells what its unit was made from. -/
theorem unit_made (balanced : b.Balanced held) {cell : UnitCell} (member : cell ∈ b.units) :
    .unitMade cell.raw (cell.index.raw b) ∈ ledger b.calls := by
  rw [← mem_madeUnits, balanced.units_made]
  exact List.mem_map_of_mem member

/-- What the calls say of a unit is what its cell says: it is in use while it has owners. -/
theorem unitInUse_iff (balanced : b.Balanced held) (fresh : FreshHandles b.calls) {raw : UnitHandle} :
    UnitInUse b.calls raw ↔ ∃ u : TranslationUnit, u.raw b = raw ∧ 0 < u.owners b := by
  have disposed := balanced.units_disposed raw
  constructor
  · rintro ⟨⟨source, passed⟩, kept⟩
    rw [← mem_madeUnits, balanced.units_made] at passed
    obtain ⟨cell, member, same⟩ := List.mem_map.mp passed
    obtain ⟨rfl, -⟩ := Prod.mk.inj same
    obtain ⟨k, present⟩ := List.mem_iff_getElem?.mp member
    refine ⟨⟨k⟩, by simp [TranslationUnit.raw, present], ?_⟩
    rw [List.count_eq_zero.mpr kept, eq_comm, List.countP_eq_zero] at disposed
    have owners : cell.owners ≠ 0 := by simpa using disposed cell member
    simpa [TranslationUnit.owners, present] using Nat.pos_of_ne_zero owners
  · rintro ⟨u, rfl, owned⟩
    obtain ⟨cell, present, handle, -, owners⟩ := b.exists_unit_cell_of_owned owned
    have member := List.mem_of_getElem? present
    refine ⟨⟨_, handle ▸ balanced.unit_made member⟩, fun gone => ?_⟩
    rw [← List.count_pos_iff, disposed, List.countP_pos_iff] at gone
    obtain ⟨other, present', gone⟩ := gone
    obtain ⟨same, none⟩ : other.raw = u.raw b ∧ other.owners = 0 := by simpa using gone
    obtain rfl := List.inj_on_of_nodup_map (balanced.unit_handles_nodup fresh) present' member
      (same.trans handle.symm)
    omega

/-- An index, too, is in use while it has owners. -/
theorem indexInUse_iff (balanced : b.Balanced held) (fresh : FreshHandles b.calls) {raw : IndexHandle} :
    IndexInUse b.calls raw ↔ ∃ i : Index, i.raw b = raw ∧ 0 < i.owners b := by
  have disposed := balanced.indexes_disposed raw
  have made : .indexMade raw ∈ ledger b.calls ↔ raw ∈ b.indexes.map (·.raw) := by
    rw [← mem_madeIndexes, balanced.indexes_made]
  constructor
  · rintro ⟨passed, kept⟩
    obtain ⟨cell, member, rfl⟩ := List.mem_map.mp (made.mp passed)
    obtain ⟨k, present⟩ := List.mem_iff_getElem?.mp member
    refine ⟨⟨k⟩, by simp [Index.raw, present], ?_⟩
    rw [List.count_eq_zero.mpr kept, eq_comm, List.countP_eq_zero] at disposed
    have owners : cell.owners ≠ 0 := by simpa using disposed cell member
    simpa [Index.owners, present] using Nat.pos_of_ne_zero owners
  · rintro ⟨i, rfl, owned⟩
    obtain ⟨cell, present, handle, owners⟩ := b.exists_cell_of_owned owned
    have member := List.mem_of_getElem? present
    refine ⟨made.mpr (List.mem_map.mpr ⟨cell, member, handle⟩), fun gone => ?_⟩
    rw [← List.count_pos_iff, disposed, List.countP_pos_iff] at gone
    obtain ⟨other, present', gone⟩ := gone
    obtain ⟨same, none⟩ : other.raw = i.raw b ∧ other.owners = 0 := by simpa using gone
    obtain rfl := List.inj_on_of_nodup_map (balanced.handles_nodup fresh) present' member
      (same.trans handle.symm)
    omega

/-- What is owned is in use. -/
theorem heldBy_implies_inUse (balanced : b.Balanced held) (fresh : FreshHandles b.calls) :
    (b.heldBy held).Implies (inUse b.calls) where
  index := fun ⟨i, own, raw⟩ => (balanced.indexInUse_iff fresh).mpr ⟨i, raw, balanced.owned_of_mem own⟩
  unit := fun ⟨u, own, raw⟩ => (balanced.unitInUse_iff fresh).mpr ⟨u, raw, balanced.unit_owned_of_mem own⟩
  file := fun ⟨valid, u, own, source⟩ =>
    ⟨valid, _, source, (balanced.unitInUse_iff fresh).mpr ⟨u, rfl, balanced.unit_owned_of_mem own⟩⟩
  string := False.elim
  cursor := fun ⟨valid, u, own, source⟩ =>
    ⟨valid, _, source, (balanced.unitInUse_iff fresh).mpr ⟨u, rfl, balanced.unit_owned_of_mem own⟩⟩

/-- When an index has its last owner among those who hold it, all its units are disposed. -/
theorem unitsFirst (balanced : b.Balanced held) (fresh : FreshHandles b.calls) {i : Index}
    (own : .index i ∈ held) (last : i.owners b = 1) {unit : UnitHandle}
    (made : .unitMade unit (i.raw b) ∈ ledger b.calls) : .unitDisposed unit ∈ ledger b.calls := by
  rw [← mem_madeUnits, balanced.units_made] at made
  obtain ⟨cell, member, same⟩ := List.mem_map.mp made
  obtain ⟨rfl, source⟩ := Prod.mk.inj same
  -- the handle of the index tells its cell, so the unit counts among those of `i`
  obtain rfl : cell.index = i := by
    have known := balanced.units_indexed cell member
    have bound := b.known_of_owned (balanced.owned_of_mem own)
    have equal : (b.indexes.map (·.raw))[cell.index.cell]? = (b.indexes.map (·.raw))[i.cell]? := by
      simp only [Index.raw, List.getElem?_eq_getElem known, List.getElem?_eq_getElem bound,
        Option.elim_some] at source
      simp [List.getElem?_eq_getElem known, List.getElem?_eq_getElem bound, source]
    exact congrArg Index.mk ((List.getElem?_inj (by simpa using known) (balanced.handles_nodup fresh)).mp equal)
  have unused : b.unitsOf cell.index = 0 := by
    have owners := balanced.index_owners cell.index
    have counted := Multiset.count_pos.mpr own
    omega
  have gone : cell.owners = 0 := by
    have free := List.countP_eq_zero.mp unused cell member
    simpa using free
  rw [← List.count_pos_iff, balanced.units_disposed, List.countP_pos_iff]
  exact ⟨cell, member, by simp [gone]⟩

end Books.Balanced

/-- Every entry of balanced books leaves the calls in order. -/
theorem OrderlyCalls.entry {b later : Books} {held after : Multiset Owner}
    (entered : Books.Entry (b, held) (later, after)) (balanced : b.Balanced held)
    (orderly : OrderlyCalls b.calls) : OrderlyCalls later.calls := by
  have lawful {call : Call} {held : Multiset Owner} (balanced : b.Balanced held)
      (law : call.Obeys (b.heldBy held)) (other : ∀ raw, call.passage? ≠ some (.indexDisposed raw)) :
      OrderlyCalls (b.calls ++ [call]) :=
    throughout_concat.mpr ⟨orderly, fun fresh =>
      ⟨law.mono (balanced.heldBy_implies_inUse fresh), fun raw disposed => (other raw disposed).elim⟩⟩
  cases entered with
  | call plain law => exact lawful balanced law (by simp [plain])
  | openIndex valid =>
    exact throughout_concat.mpr ⟨orderly, fun fresh => ⟨trivial, by simp [Call.passage?, valid]⟩⟩
  | openUnit made law => exact lawful balanced law (by simp [made])
  | ownIndex | ownUnit | disownIndex | disownUnit => exact orderly
  | @closeIndex _ _ i last =>
    have own := Multiset.mem_cons_self (Owner.index i) after
    refine throughout_concat.mpr ⟨orderly, fun fresh => ⟨?_, fun raw disposed unit made => ?_⟩⟩
    · exact (balanced.heldBy_implies_inUse fresh).index ⟨i, own, rfl⟩
    · obtain rfl : i.raw b = raw := by simpa [Call.passage?] using disposed
      exact balanced.unitsFirst fresh own last made
  | @closeUnit _ _ u last =>
    refine throughout_concat.mpr ⟨orderly, fun fresh => ⟨?_, by simp [Call.passage?]⟩⟩
    exact (balanced.heldBy_implies_inUse fresh).unit ⟨u, Multiset.mem_cons_self _ _, rfl⟩
  | receiveString made law => exact lawful balanced law (by simp [made])
  | readString valid =>
    exact throughout_concat.mpr ⟨orderly, fun fresh => ⟨valid, by simp [Call.passage?]⟩⟩
  | disposeString valid =>
    exact throughout_concat.mpr ⟨orderly, fun fresh => ⟨valid, by simp [Call.passage?]⟩⟩

/-- Books that balance, with all their calls in order. -/
structure Books.Kept (b : Books) (held : Multiset Owner) : Prop where
  balanced : b.Balanced held
  orderly : OrderlyCalls b.calls

theorem Books.Kept.start : Books.Kept (World.start ()) 0 := ⟨.start, throughout_nil⟩

/-- Every course keeps the books, by the law that each of its calls obeys. -/
theorem Books.Kept.course {before after : Books × Multiset Owner} (ran : Books.Course before after)
    (kept : before.1.Kept before.2) : after.1.Kept after.2 := by
  induction ran with
  | refl => exact kept
  | tail _ entered ih => exact ⟨ih.balanced.entry entered, ih.orderly.entry entered ih.balanced⟩

/-- A new generation of a unit changes no owner and no call. -/
theorem Books.Kept.renew {b : Books} {held : Multiset Owner} (kept : b.Kept held) (u : TranslationUnit) :
    Books.Kept (b.renew u) held :=
  ⟨kept.balanced.renew u, kept.orderly⟩

end HandleGraph
