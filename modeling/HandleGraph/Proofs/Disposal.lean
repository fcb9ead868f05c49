import HandleGraph.Proofs.Sessions

/-! # Disposal

An engine that returns no handle twice sees every unit and every index disposed exactly once: a unit
when nothing refers to it any more, an index after all its units when no index object is left. So a unit
is in use exactly as long as some object in a slot refers to it.
-/

namespace HandleGraph

variable {σ : Type} {E : Engine σ} {load : Loading σ Unit} {s : Session σ}

/-- An object refers to a unit: a cursor to its own unit and to those of the cursors it remembers, however
deep. -/
def Object.RefersTo (u : TranslationUnit) : Object → Prop
  | .index _ => False
  | .unit v => v = u
  | .file f => f.unit = u
  | .cursor c => ∃ path d, c.follow path = some d ∧ d.unit = some u
  | .cursors q => q.unit = u

theorem Object.refersTo_iff {o : Object} {u : TranslationUnit} : o.RefersTo u ↔ .unit u ∈ o.owners := by
  cases o with
  | index i => simp [RefersTo, owners]
  | unit v => simp [RefersTo, owners, eq_comm]
  | file f => simp [RefersTo, owners, eq_comm]
  | cursor c => simp [RefersTo, owners, Cursor.mem_owners_iff]
  | cursors q => simp [RefersTo, owners, eq_comm]

private theorem Object.index_mem_owners_iff {o : Object} {i : Index} : .index i ∈ o.owners ↔ o = .index i := by
  cases o with
  | index j => simp [owners, eq_comm]
  | unit v => simp [owners]
  | file f => simp [owners]
  | cursor c => simp [owners, Cursor.mem_owners_iff]
  | cursors q => simp [owners]

namespace Books.Balanced

variable {b : Books} {held : Multiset Owner}

/-- The index of a unit that is in use is in use, and it is the one the unit was made from. -/
theorem source_inUse (balanced : b.Balanced held) (fresh : FreshHandles b.calls) {unit : UnitHandle}
    {source : IndexHandle} (made : .unitMade unit source ∈ ledger b.calls) (used : UnitInUse b.calls unit) :
    IndexInUse b.calls source := by
  obtain ⟨u, rfl, owned⟩ := (balanced.unitInUse_iff fresh).mp used
  obtain ⟨cell, present, handle, index, -⟩ := b.exists_unit_cell_of_owned owned
  refine (balanced.indexInUse_iff fresh).mpr ⟨u.index b, ?_, balanced.owned_of_unit owned⟩
  rw [← mem_madeUnits, balanced.units_made] at made
  obtain ⟨other, member, same⟩ := List.mem_map.mp made
  obtain ⟨again, rfl⟩ := Prod.mk.inj same
  obtain rfl := List.inj_on_of_nodup_map (balanced.unit_handles_nodup fresh) member
    (List.mem_of_getElem? present) (again.trans handle.symm)
  rw [index]

private theorem unit_disposed_once (balanced : b.Balanced held) (fresh : FreshHandles b.calls) (raw : UnitHandle) :
    (ledger b.calls).count (.unitDisposed raw) ≤ 1 := by
  rw [balanced.units_disposed]
  refine le_trans ?_ (List.nodup_iff_count_le_one.mp (balanced.unit_handles_nodup fresh) raw)
  rw [List.count, List.countP_map]
  exact List.countP_mono_left fun cell _ both => by simpa using (by simpa using both : _ ∧ _).1

private theorem index_disposed_once (balanced : b.Balanced held) (fresh : FreshHandles b.calls) (raw : IndexHandle) :
    (ledger b.calls).count (.indexDisposed raw) ≤ 1 := by
  rw [balanced.indexes_disposed]
  refine le_trans ?_ (List.nodup_iff_count_le_one.mp (balanced.handles_nodup fresh) raw)
  rw [List.count, List.countP_map]
  exact List.countP_mono_left fun cell _ both => by simpa using (by simpa using both : _ ∧ _).1

private theorem unit_made_of_disposed (balanced : b.Balanced held) {raw : UnitHandle}
    (disposed : .unitDisposed raw ∈ ledger b.calls) : ∃ source, .unitMade raw source ∈ ledger b.calls := by
  rw [← List.count_pos_iff, balanced.units_disposed, List.countP_pos_iff] at disposed
  obtain ⟨cell, member, same⟩ := disposed
  obtain ⟨rfl, -⟩ : cell.raw = raw ∧ cell.owners = 0 := by simpa using same
  exact ⟨_, balanced.unit_made member⟩

private theorem index_made_of_disposed (balanced : b.Balanced held) {raw : IndexHandle}
    (disposed : .indexDisposed raw ∈ ledger b.calls) : .indexMade raw ∈ ledger b.calls := by
  rw [← List.count_pos_iff, balanced.indexes_disposed, List.countP_pos_iff] at disposed
  obtain ⟨cell, member, same⟩ := disposed
  obtain ⟨rfl, -⟩ : cell.raw = raw ∧ cell.owners = 0 := by simpa using same
  rw [← mem_madeIndexes, balanced.indexes_made]
  exact List.mem_map_of_mem member

end Books.Balanced

namespace Session

/-- Some object in a slot refers to the unit of a handle. -/
def HoldsUnit (s : Session σ) (raw : UnitHandle) : Prop :=
  ∃ slot o u, s.slots.find? slot = some o ∧ o.RefersTo u ∧ u.raw s.world = raw

def HoldsIndex (s : Session σ) (raw : IndexHandle) : Prop :=
  ∃ slot i, s.slots.find? slot = some (.index i) ∧ i.raw s.world = raw

/-- An index is held itself or some unit that was made from it is. -/
def UsesIndex (s : Session σ) (raw : IndexHandle) : Prop :=
  s.HoldsIndex raw ∨ ∃ unit, .unitMade unit raw ∈ ledger s.world.calls ∧ s.HoldsUnit unit

private theorem Kept.unitInUse_iff (kept : s.Kept) (fresh : FreshHandles s.world.calls) (raw : UnitHandle) :
    UnitInUse s.world.calls raw ↔ s.HoldsUnit raw := by
  have balanced := kept.books.balanced
  rw [show s.world.calls = s.books.calls from rfl, balanced.unitInUse_iff fresh]
  constructor
  · rintro ⟨u, same, owned⟩
    rw [balanced.unit_owners, Multiset.count_pos, kept.sound.ordered.mem_owners_iff] at owned
    obtain ⟨slot, o, present, own⟩ := owned
    exact ⟨slot, o, u, present, Object.refersTo_iff.mpr own, same⟩
  · rintro ⟨slot, o, u, present, refers, same⟩
    refine ⟨u, same, balanced.unit_owned_of_mem ?_⟩
    exact kept.sound.mem_owners present (Object.refersTo_iff.mp refers)

private theorem Kept.indexInUse_iff (kept : s.Kept) (fresh : FreshHandles s.world.calls) (raw : IndexHandle) :
    IndexInUse s.world.calls raw ↔ s.UsesIndex raw := by
  have balanced := kept.books.balanced
  constructor
  · intro used
    obtain ⟨i, same, owned⟩ := (balanced.indexInUse_iff fresh).mp used
    rw [balanced.index_owners, Nat.add_pos_iff_pos_or_pos, Multiset.count_pos,
      kept.sound.ordered.mem_owners_iff, World.unitsOf, List.countP_pos_iff] at owned
    rcases owned with ⟨slot, o, present, own⟩ | ⟨cell, member, unit⟩
    · exact .inl ⟨slot, i, Object.index_mem_owners_iff.mp own ▸ present, same⟩
    · obtain ⟨rfl, owned⟩ : cell.index = i ∧ 0 < cell.owners := by simpa using unit
      obtain ⟨k, there⟩ := List.mem_iff_getElem?.mp member
      change s.world.units[k]? = some cell at there
      refine .inr ⟨cell.raw, same ▸ balanced.unit_made member, (kept.unitInUse_iff fresh _).mp ?_⟩
      refine (balanced.unitInUse_iff fresh).mpr ⟨⟨k⟩, ?_, ?_⟩
      · simp [TranslationUnit.raw, there]
      · simpa [TranslationUnit.owners, there] using owned
  · rintro (⟨slot, i, present, same⟩ | ⟨unit, made, used⟩)
    · refine (balanced.indexInUse_iff fresh).mpr ⟨i, same, balanced.owned_of_mem ?_⟩
      exact kept.sound.index present
    · exact balanced.source_inUse fresh made ((kept.unitInUse_iff fresh unit).mpr used)

/-- Units and indexes in use are those that are held. Each is disposed at most once, and an index only
after all units that are ever made from it. -/
structure Disposes (s : Session σ) : Prop where
  unit_inUse_iff : ∀ raw, UnitInUse s.world.calls raw ↔ s.HoldsUnit raw
  index_inUse_iff : ∀ raw, IndexInUse s.world.calls raw ↔ s.HoldsIndex raw ∨
    ∃ unit, .unitMade unit raw ∈ ledger s.world.calls ∧ UnitInUse s.world.calls unit
  unit_once : ∀ raw, (ledger s.world.calls).count (.unitDisposed raw) ≤ 1
  index_once : ∀ raw, (ledger s.world.calls).count (.indexDisposed raw) ≤ 1
  unitsFirst : ∀ before call later, s.world.calls = before ++ call :: later →
    ∀ raw, call.passage? = some (.indexDisposed raw) →
      ∀ unit, .unitMade unit raw ∈ ledger s.world.calls → .unitDisposed unit ∈ ledger before

private theorem Kept.disposes (kept : s.Kept) (fresh : FreshHandles s.world.calls) : s.Disposes where
  unit_inUse_iff := kept.unitInUse_iff fresh
  index_inUse_iff raw := by
    simp only [kept.unitInUse_iff fresh]
    exact kept.indexInUse_iff fresh raw
  unit_once := kept.books.balanced.unit_disposed_once fresh
  index_once := kept.books.balanced.index_disposed_once fresh
  unitsFirst := by
    intro before call later split raw disposed unit made
    have orderly := kept.books.orderly
    have first := orderly before call later split (fresh.of_split split)
    rw [split, ledger_append, ledger_cons, disposed] at made
    rcases List.mem_append.mp made with earlier | later'
    · exact first.unitsFirst raw disposed unit earlier
    · -- no unit is made from an index that was disposed
      obtain ⟨other, member, passed⟩ := List.mem_filterMap.mp ((List.mem_cons.mp later').resolve_left nofun)
      obtain ⟨between, rest, rfl⟩ := List.append_of_mem member
      have again : s.world.calls = (before ++ call :: between) ++ other :: rest := by simp [split]
      have used := (orderly _ other rest again (fresh.of_split again)).obeys.source passed
      refine absurd ?_ used.2
      rw [ledger_append, ledger_cons, disposed]
      exact List.mem_append_right _ List.mem_cons_self

/-- Between two moments exactly those units and indexes are disposed that were held, or made meanwhile,
and are held no longer. -/
def DisposesUntil (s after : Session σ) : Prop :=
  ∃ calls, after.world.calls = s.world.calls ++ calls ∧
    (∀ raw, .unitDisposed raw ∈ ledger calls ↔
      (s.HoldsUnit raw ∨ ∃ source, .unitMade raw source ∈ ledger calls) ∧ ¬after.HoldsUnit raw) ∧
    ∀ raw, .indexDisposed raw ∈ ledger calls ↔
      (s.UsesIndex raw ∨ .indexMade raw ∈ ledger calls) ∧ ¬after.UsesIndex raw

private theorem disposed_iff {before calls : List Call} (disposed : Passage)
    (made : List Passage → Prop) (made_append : ∀ first second, made (first ++ second) ↔ made first ∨ made second)
    (once : (ledger (before ++ calls)).count disposed ≤ 1)
    (earlier : disposed ∈ ledger before → made (ledger before))
    (sometime : disposed ∈ ledger (before ++ calls) → made (ledger (before ++ calls)))
    (fresh : made (ledger before) → ¬made (ledger calls)) :
    disposed ∈ ledger calls ↔
      ((made (ledger before) ∧ disposed ∉ ledger before) ∨ made (ledger calls)) ∧
      ¬(made (ledger (before ++ calls)) ∧ disposed ∉ ledger (before ++ calls)) := by
  simp only [ledger_append, List.count_append, List.mem_append, made_append] at *
  constructor
  · intro later
    have notBefore : disposed ∉ ledger before := fun before => by
      have first := List.count_pos_iff.mpr before
      have second := List.count_pos_iff.mpr later
      omega
    exact ⟨(sometime (.inr later)).imp_left (⟨·, notBefore⟩), fun ⟨_, apart⟩ => apart (.inr later)⟩
  · rintro ⟨⟨made, notBefore⟩ | made, gone⟩ <;> by_contra notLater
    · exact gone ⟨.inl made, fun both => both.elim notBefore notLater⟩
    · exact gone ⟨.inr made, fun both => both.elim (fun before => fresh (earlier before) made) notLater⟩

private theorem Kept.disposesUntil {after : Session σ} (kept : s.Kept) (later : after.Kept)
    (grown : s.books.Extends after.books) (fresh : FreshHandles after.world.calls) :
    s.DisposesUntil after := by
  obtain ⟨calls, same⟩ : s.world.calls <+: after.world.calls := grown.calls
  have freshBefore : FreshHandles s.world.calls := FreshHandles.of_append (same ▸ fresh)
  have balanced := kept.books.balanced
  have balanced' := later.books.balanced
  refine ⟨calls, same.symm, fun raw => ?_, fun raw => ?_⟩
  · rw [← kept.unitInUse_iff freshBefore, ← later.unitInUse_iff fresh, UnitInUse, UnitInUse, ← same]
    refine disposed_iff (.unitDisposed raw) (fun passed => ∃ source, .unitMade raw source ∈ passed) ?_ ?_
      balanced.unit_made_of_disposed ?_ ?_
    · simp only [List.mem_append, exists_or, implies_true]
    · exact same ▸ balanced'.unit_disposed_once fresh raw
    · exact same ▸ balanced'.unit_made_of_disposed
    · rintro ⟨source, made⟩ ⟨other, again⟩
      exact FreshHandles.unit_not_again (same ▸ fresh) made again
  · rw [← kept.indexInUse_iff freshBefore, ← later.indexInUse_iff fresh, IndexInUse, IndexInUse, ← same]
    refine disposed_iff (.indexDisposed raw) (fun passed => .indexMade raw ∈ passed) ?_ ?_
      balanced.index_made_of_disposed ?_ ?_
    · simp only [List.mem_append, implies_true]
    · exact same ▸ balanced'.index_disposed_once fresh raw
    · exact same ▸ balanced'.index_made_of_disposed
    · exact FreshHandles.index_not_again (same ▸ fresh)

def ended (E : Engine σ) (load : Loading σ Unit) (engine : σ) (requests : List Request) : Session σ :=
  (close E (after E load engine requests)).2

/-- The end of a session is a course like any other, so the books are kept to the last call. -/
theorem Kept.close (kept : s.Kept) : (Session.close E s).2.Kept := by
  obtain ⟨course, slots⟩ := close_enters (E := E) s
  constructor
  case sound =>
    refine ⟨slots ▸ SlotMap.ordered_empty, fun slot o present => ?_⟩
    rw [slots] at present
    cases present
  case books =>
    rw [owners, slots]
    exact kept.books.course course

/-- Without objects in the slots, everything that was made has been disposed. -/
theorem Disposes.of_empty (disposes : s.Disposes) (empty : s.slots = .empty) :
    (∀ unit source, .unitMade unit source ∈ ledger s.world.calls →
      (ledger s.world.calls).count (.unitDisposed unit) = 1) ∧
    ∀ index, .indexMade index ∈ ledger s.world.calls →
      (ledger s.world.calls).count (.indexDisposed index) = 1 := by
  have noUnit (raw : UnitHandle) : ¬UnitInUse s.world.calls raw := by
    rw [disposes.unit_inUse_iff]
    rintro ⟨slot, o, u, present, -⟩
    rw [empty] at present
    cases present
  have noIndex (raw : IndexHandle) : ¬IndexInUse s.world.calls raw := by
    rw [disposes.index_inUse_iff]
    rintro (⟨slot, i, present, -⟩ | ⟨unit, -, used⟩)
    · rw [empty] at present
      cases present
    · exact noUnit unit used
  refine ⟨fun unit source made => (disposes.unit_once unit).antisymm ?_, fun index made =>
    (disposes.index_once index).antisymm ?_⟩
  · refine List.count_pos_iff.mpr (not_not.mp fun kept => noUnit unit ⟨⟨source, made⟩, kept⟩)
  · refine List.count_pos_iff.mpr (not_not.mp fun kept => noIndex index ⟨made, kept⟩)

/-- With fresh handles, units and indexes are disposed exactly once: at every moment those in use are those
that are held, a step disposes those that are held no longer, and in the end everything is disposed. -/
theorem disposed_exactly_once (silent : Silent load) (engine : σ) (requests : List Request)
    (graph : ∀ r ∈ requests, r.command.OnGraph)
    (fresh : FreshHandles (ended E load engine requests).world.calls) :
    (∀ earlier, earlier <+: requests → (after E load engine earlier).Disposes) ∧
    (∀ earlier r, earlier ++ [r] <+: requests →
      (after E load engine earlier).DisposesUntil (after E load engine (earlier ++ [r]))) ∧
    (ended E load engine requests).Disposes ∧
    (∀ unit source, .unitMade unit source ∈ ledger (ended E load engine requests).world.calls →
      (ledger (ended E load engine requests).world.calls).count (.unitDisposed unit) = 1) ∧
    ∀ index, .indexMade index ∈ ledger (ended E load engine requests).world.calls →
      (ledger (ended E load engine requests).world.calls).count (.indexDisposed index) = 1 := by
  have kept {earlier : List Request} (begins : earlier <+: requests) :
      (after E load engine earlier).Kept :=
    .after silent engine fun r member => graph r (begins.subset member)
  have closing := close_enters (E := E) (after E load engine requests)
  have freshUpTo {earlier : List Request} (begins : earlier <+: requests) :
      FreshHandles (after E load engine earlier).world.calls := by
    have grown := (after_extends silent engine graph begins).trans (.course closing.1)
    obtain ⟨later, same⟩ : (after E load engine earlier).world.calls <+:
        (ended E load engine requests).world.calls := grown.calls
    exact FreshHandles.of_append (same ▸ fresh)
  have disposes : (ended E load engine requests).Disposes :=
    (Kept.close (kept List.prefix_rfl)).disposes fresh
  refine ⟨fun earlier begins => (kept begins).disposes (freshUpTo begins), fun earlier r begins => ?_,
    disposes, disposes.of_empty closing.2⟩
  have starts := (List.prefix_append earlier [r]).trans begins
  exact (kept starts).disposesUntil (kept begins)
    (after_extends silent engine (fun r member => graph r (begins.subset member)) (List.prefix_append _ _))
    (freshUpTo begins)

theorem disposed_exactly_once_sample :
    FreshHandles (ended Script.engine (pure ()) Sample.script Sample.requests).world.calls ∧
      (ledger (ended Script.engine (pure ()) Sample.script Sample.requests).world.calls).count
        (.unitDisposed ⟨2⟩) = 1 := by
  have fresh : FreshHandles (ended Script.engine (pure ()) Sample.script Sample.requests).world.calls :=
    ⟨by decide +kernel, by decide +kernel⟩
  have disposed := disposed_exactly_once silent_pure Sample.script Sample.requests Sample.requests_onGraph fresh
  exact ⟨fresh, disposed.2.2.2.1 ⟨2⟩ ⟨1⟩ (by decide +kernel)⟩

end Session

end HandleGraph
