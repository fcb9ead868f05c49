import HandleGraph.Proofs.Shadows
import HandleGraph.Proofs.UncachedBooks

/-! # Letting go in worlds that shadow one another

A cursor that remembers cursors owns its unit many times, one without memory owns it once. Still the unit is
disposed in both worlds at once, because everything that a cursor remembers goes with it.
-/

namespace HandleGraph

variable {σ ν : Type} {view : σ → ν} {E : Engine σ} {w v : World σ} {held held' : Multiset Owner}

namespace TranslationUnit

variable {u : TranslationUnit}

theorem drop_more (more : u.owners w ≠ 1) : (u.drop E w).2 = w.countUnit u (· - 1) := by
  unfold drop
  change ((ite (u.owners w = 1) _ _ : Action σ Unit) _).2 = _
  rw [if_neg more]
  rfl

/-- The last owner disposes of the unit and then lets go of its index. -/
theorem drop_last (last : u.owners w = 1) :
    (u.drop E w).2 = ((u.index w).drop E (ask E (.disposeUnit (u.raw w))
      (report (.disposingUnit (u.raw w)) (w.countUnit u (· - 1))).2).2).2 := by
  unfold drop
  change ((ite (u.owners w = 1) _ _ : Action σ Unit) _).2 = _
  rw [if_pos last]
  rfl

end TranslationUnit

namespace Shadows

private theorem map_face_countUnit (w : World σ) (u : TranslationUnit) (f : Nat → Nat) :
    (w.countUnit u f).units.map UnitCell.face = w.units.map UnitCell.face := by
  refine List.ext_getElem? fun k => ?_
  simp only [World.countUnit, List.getElem?_map, List.getElem?_modify]
  cases w.units[k]? <;> by_cases here : u.cell = k <;> simp [here]; rfl

/-- The number of owners of a unit does not show. -/
theorem countUnit (w : World σ) (u : TranslationUnit) (f : Nat → Nat) :
    Coincide view w (w.countUnit u f) :=
  of_faces rfl rfl (map_face_countUnit w u f) rfl

theorem report (w : World σ) (e : Event) : Coincide view w (report e w).2 :=
  of_faces rfl rfl rfl rfl

private theorem drop_index (indifferent : Indifferent E view) (shadows : Shadows view w v) (i : Index) :
    Shadows view (i.drop E w).2 (i.drop E v).2 := by
  have counted : Shadows view (w.countIndex i (· - 1)) (v.countIndex i (· - 1)) :=
    ⟨shadows.view, ⟨by simp only [World.countIndex, shadows.cells.indexes], shadows.cells.units⟩, shadows.queries,
      shadows.disposals⟩
  unfold Index.drop
  change Shadows view ((ite (i.owners w = 1) _ _ : Action σ Unit) (w.countIndex i (· - 1))).2
    ((ite (i.owners v = 1) _ _ : Action σ Unit) (v.countIndex i (· - 1))).2
  rw [shadows.cells.owners, shadows.cells.raw]
  split_ifs
  · have told :=
      (report _ (.disposingIndex (i.raw v))).back.trans (counted.trans (report _ (.disposingIndex (i.raw v))).forth)
    exact (told.ask_other indifferent rfl rfl).2
  · exact counted

/-- A unit is let go of by its last owner in both worlds or in neither. -/
theorem drop_unit (indifferent : Indifferent E view) (shadows : Shadows view w v) {u : TranslationUnit}
    (last : u.owners w = 1 ↔ u.owners v = 1) : Shadows view (u.drop E w).2 (u.drop E v).2 := by
  have counted : Shadows view (w.countUnit u (· - 1)) (v.countUnit u (· - 1)) :=
    ((countUnit w u _).back.trans shadows).trans (countUnit v u _).forth
  by_cases here : u.owners w = 1
  · rw [TranslationUnit.drop_last here, TranslationUnit.drop_last (last.mp here), shadows.cells.unit_raw,
      shadows.cells.unit_index]
    have told :=
      (report _ (.disposingUnit (u.raw v))).back.trans (counted.trans (report _ (.disposingUnit (u.raw v))).forth)
    exact (told.ask_other indifferent rfl rfl).2.drop_index indifferent _
  · rw [TranslationUnit.drop_more here, TranslationUnit.drop_more fun there => here (last.mpr there)]
    exact counted

/-- An owner of a unit that has others besides does not show. -/
theorem drop_owned {u : TranslationUnit} (kept : w.books.Kept (.unit u ::ₘ held)) (own : .unit u ∈ held) :
    Coincide view w (u.drop E w).2 := by
  have owners : u.owners w = _ := kept.balanced.unit_owners u
  have others := Multiset.count_pos.mpr own
  rw [Multiset.count_cons_self] at owners
  rw [TranslationUnit.drop_more (by omega)]
  exact countUnit w u _

/-- Owners of units that have others besides. -/
theorem drop_owned_units (units : List TranslationUnit) (kept : w.books.Kept (↑(units.map Owner.unit) + held))
    (own : ∀ u ∈ units, .unit u ∈ held) :
    Coincide view w (units.forM (TranslationUnit.drop E) w).2 := by
  induction units generalizing w with
  | nil => exact .refl view w
  | cons u rest ih =>
    rw [List.map_cons, ← Multiset.cons_coe, Multiset.cons_add] at kept
    have still : .unit u ∈ (↑(rest.map Owner.unit) + held : Multiset Owner) :=
      Multiset.mem_add.mpr (.inr (own u List.mem_cons_self))
    have first : Coincide view w (u.drop E w).2 := drop_owned kept still
    have dropped : (u.drop E w).2.books.Kept (↑(rest.map Owner.unit) + held) := kept.course u.drop_course
    exact first.trans (ih dropped fun x member => own x (List.mem_cons_of_mem _ member))

/-- Owners of the same units are let go of, when the same units are owned besides. -/
theorem drop_units (indifferent : Indifferent E view) (shadows : Shadows view w v) (units : List TranslationUnit)
    (kept : w.books.Kept (↑(units.map Owner.unit) + held)) (kept' : v.books.Kept (↑(units.map Owner.unit) + held'))
    (same : ∀ u, .unit u ∈ held ↔ .unit u ∈ held') :
    Shadows view (units.forM (TranslationUnit.drop E) w).2 (units.forM (TranslationUnit.drop E) v).2 := by
  induction units generalizing w v with
  | nil => exact shadows
  | cons u rest ih =>
    rw [List.map_cons, ← Multiset.cons_coe, Multiset.cons_add] at kept kept'
    -- The numbers of owners may differ, but it is the last one in both worlds or in neither.
    have last : u.owners w = 1 ↔ u.owners v = 1 := by
      have here : u.owners w = _ := kept.balanced.unit_owners u
      have there : u.owners v = _ := kept'.balanced.unit_owners u
      have none : Multiset.count (.unit u) held = 0 ↔ Multiset.count (.unit u) held' = 0 := by
        rw [Multiset.count_eq_zero, Multiset.count_eq_zero, same]
      simp only [Multiset.count_cons_self, Multiset.count_add] at here there
      omega
    exact ih (shadows.drop_unit indifferent last) (kept.course u.drop_course) (kept'.course u.drop_course)

/-- Many owners of a unit are let go of on one side, one on the other. -/
theorem drop_replicate (indifferent : Indifferent E view) (shadows : Shadows view w v) (u : TranslationUnit) (n : Nat)
    (kept : w.books.Kept (↑((List.replicate (n + 1) u).map Owner.unit) + held))
    (kept' : v.books.Kept (.unit u ::ₘ held')) (same : ∀ u, .unit u ∈ held ↔ .unit u ∈ held') :
    Shadows view ((List.replicate (n + 1) u).forM (TranslationUnit.drop E) w).2 (u.drop E v).2 := by
  induction n generalizing w with
  | zero => exact shadows.drop_units indifferent [u] kept kept' same
  | succ n ih =>
    rw [List.replicate_succ, List.map_cons, ← Multiset.cons_coe, Multiset.cons_add] at kept
    -- Only the last of the many meets the one on the other side; those before it have others besides.
    have own : .unit u ∈ (↑((List.replicate (n + 1) u).map Owner.unit) + held : Multiset Owner) := by
      simp [List.replicate_succ]
    exact ih ((drop_owned kept own).back.trans shadows) (kept.course u.drop_course)

end Shadows

/-- A cursor owns its own unit and no other. -/
theorem Cursor.Rooted.owned_eq {b : Books} {u : TranslationUnit} {generation : UInt64} {c : Cursor}
    (rooted : c.Rooted b u generation) :
    c.owned = [] ∧ c = .null ∨ c.unit = some u ∧ ∃ n, c.owned = List.replicate (n + 1) u := by
  cases rooted with
  | absent => exact .inl ⟨rfl, rfl⟩
  | position live links =>
    have rooted := Cursor.Rooted.position live links
    have single (x : TranslationUnit) (member : x ∈ c.owned) : x = u := by
      have own : Owner.unit x ∈ c.owners := Multiset.mem_coe.mpr (List.mem_map_of_mem member)
      obtain ⟨path, d, y, reached, there, same⟩ := Cursor.mem_owners_iff.mp own
      obtain rfl := Owner.unit.inj same
      exact Option.some.inj ((rooted.unit_of_follow reached there).symm.trans live.unit)
    have own : u ∈ c.owned := by
      obtain ⟨raw, unit, _, memo⟩ := c
      obtain rfl : unit = some u := live.unit
      exact List.mem_append_left _ (List.mem_singleton_self u)
    obtain ⟨n, length⟩ := Nat.exists_eq_succ_of_ne_zero (List.length_pos_iff.mpr (List.ne_nil_of_mem own)).ne'
    exact .inr ⟨live.unit, n, List.eq_replicate_iff.mpr ⟨length, single⟩⟩

namespace Shadows

/-- A cursor whose unit has other owners besides. -/
theorem drop_rooted {b : Books} {u : TranslationUnit} {generation : UInt64} {c : Cursor}
    (rooted : c.Rooted b u generation) (kept : w.books.Kept (c.owners + held))
    (own : c.unit = some u → .unit u ∈ held) :
    Coincide view w (c.drop E w).2 := by
  refine drop_owned_units c.owned kept fun x member => ?_
  rcases rooted.owned_eq with ⟨empty, -⟩ | ⟨here, n, owned⟩
  · rw [empty] at member
    cases member
  · rw [owned] at member
    exact List.eq_of_mem_replicate member ▸ own here

/-- Cursors of a unit that has other owners besides. -/
theorem drop_cursors {b : Books} {u : TranslationUnit} {generation : UInt64} {cursors : List Cursor}
    (rooted : ∀ c ∈ cursors, c.Rooted b u generation) (kept : w.books.Kept (CursorSequence.owners cursors + held))
    (own : .unit u ∈ held) :
    Coincide view w (cursors.forM (Cursor.drop E) w).2 := by
  induction cursors generalizing w with
  | nil => exact .refl view w
  | cons c rest ih =>
    rw [CursorSequence.owners, List.map_cons, List.sum_cons, add_assoc] at kept
    have first : Coincide view w (c.drop E w).2 :=
      drop_rooted (rooted c List.mem_cons_self) kept fun _ => Multiset.mem_add.mpr (.inr own)
    have dropped : (c.drop E w).2.books.Kept (CursorSequence.owners rest + held) := kept.course c.drop_course
    exact first.trans (ih (fun d member => rooted d (List.mem_cons_of_mem _ member)) dropped)

/-- A cursor with all that it remembers is let go of on one side, one without memory on the other. -/
theorem drop_cursor (indifferent : Indifferent E view) (shadows : Shadows view w v) {b : Books} {u : TranslationUnit}
    {generation : UInt64} {c : Cursor} (rooted : c.Rooted b u generation) (kept : w.books.Kept (c.owners + held))
    (kept' : v.books.Kept (c.bare.owners + held')) (same : ∀ u, .unit u ∈ held ↔ .unit u ∈ held') :
    Shadows view (c.drop E w).2 (c.bare.drop E v).2 := by
  rcases rooted.owned_eq with ⟨-, rfl⟩ | ⟨here, n, owned⟩
  · exact shadows
  · rw [Cursor.owners, owned] at kept
    rw [Cursor.owners, Cursor.owned_bare here] at kept'
    rw [Cursor.drop, Cursor.drop, owned, Cursor.owned_bare here]
    exact shadows.drop_replicate indifferent u n kept kept' same

/-- An object and its place let go of the same units, once or more often, so both are in use or neither. -/
theorem drop_object (indifferent : Indifferent E view) (shadows : Shadows view w v) {b : Books} {o : Object}
    (sound : o.Sound b) (kept : w.books.Kept (o.owners + held)) (kept' : v.books.Kept (o.place.owners + held'))
    (same : ∀ u, .unit u ∈ held ↔ .unit u ∈ held') : Shadows view (o.drop E w).2 (o.place.drop E v).2 := by
  cases o with
  | index i => exact shadows.drop_index indifferent i
  | unit u => exact shadows.drop_units indifferent [u] kept kept' same
  | file f => exact shadows.drop_units indifferent [f.unit] kept kept' same
  | cursor c =>
    obtain ⟨u, generation, rooted⟩ := sound
    exact shadows.drop_cursor indifferent rooted kept kept' same
  | cursors s => exact shadows.drop_units indifferent [s.unit] kept kept' same

end Shadows

/-! ## The objects of a session -/

private theorem Object.mem_owners_place {b : Books} {o : Object} (sound : o.Sound b) (u : TranslationUnit) :
    .unit u ∈ o.owners ↔ .unit u ∈ o.place.owners := by
  cases o with
  | cursor c =>
    obtain ⟨v, generation, rooted⟩ := sound
    change _ ∈ c.owners ↔ _ ∈ c.bare.owners
    rcases (show c.Rooted b v generation from rooted).owned_eq with ⟨-, rfl⟩ | ⟨here, n, owned⟩
    · rfl
    · rw [Cursor.owners, Cursor.owners, owned, Cursor.owned_bare here]
      simp
  | _ => rfl

theorem Object.mem_sum_place {b : Books} {objects : List Object} (sound : ∀ o ∈ objects, o.Sound b)
    (u : TranslationUnit) :
    .unit u ∈ (objects.map Object.owners).sum ↔ .unit u ∈ ((objects.map Object.place).map Object.owners).sum := by
  rw [Owner.mem_sum_map, Owner.mem_sum_map]
  constructor
  · rintro ⟨o, member, own⟩
    exact ⟨o.place, List.mem_map_of_mem member, (mem_owners_place (sound o member) u).mp own⟩
  · rintro ⟨_, there, own⟩
    obtain ⟨o, member, rfl⟩ := List.mem_map.mp there
    exact ⟨o, member, (mem_owners_place (sound o member) u).mpr own⟩

/-- All objects of a session are let go of. -/
theorem Shadows.drop_objects (indifferent : Indifferent E view) {s t : Session σ}
    (shadows : Shadows view s.world t.world) {b : Books} {objects : List Object} (sound : ∀ o ∈ objects, o.Sound b)
    (kept : s.books.Kept (objects.map Object.owners).sum)
    (kept' : t.books.Kept ((objects.map Object.place).map Object.owners).sum) :
    Shadows view (objects.forM (fun o => Session.act (o.drop E)) s).2.world
      ((objects.map Object.place).forM (fun o => Session.act (o.drop E)) t).2.world := by
  induction objects generalizing s t with
  | nil => exact shadows
  | cons o rest ih =>
    simp only [List.map_cons, List.sum_cons] at kept kept'
    have later : ∀ o ∈ rest, o.Sound b := fun x member => sound x (List.mem_cons_of_mem _ member)
    have dropped := shadows.drop_object indifferent (sound o List.mem_cons_self) kept kept' (Object.mem_sum_place later)
    exact ih (s := { s with world := (o.drop E s.world).2 }) (t := { t with world := (o.place.drop E t.world).2 })
      dropped later (kept.course o.drop_course) (kept'.course o.place.drop_course)

end HandleGraph
