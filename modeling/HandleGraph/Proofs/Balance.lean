import HandleGraph.Proofs.Books

/-! # The balance of the books

Every cell has exactly the owners that there are: an index those who hold it and its units in use, a
unit those who hold it. What was made and disposed, going by the calls, is what the cells say. Every
entry keeps this balance.
-/

namespace HandleGraph

/-! ## Cells in a list -/

private theorem map_modify_same {α β : Type} {f : α → α} {g : α → β} (same : ∀ a, g (f a) = g a)
    (cells : List α) (k : Nat) : (cells.modify k f).map g = cells.map g := by
  induction cells generalizing k with
  | nil => simp
  | cons cell rest ih => cases k <;> simp [same, ih]

private theorem countP_modify {α : Type} {p : α → Bool} {f : α → α} {cells : List α} {k : Nat} {cell : α}
    (present : cells[k]? = some cell) :
    (cells.modify k f).countP p + (if p cell then 1 else 0) =
      cells.countP p + if p (f cell) then 1 else 0 := by
  induction cells generalizing k with
  | nil => cases present
  | cons first rest ih =>
    cases k with
    | zero =>
      obtain rfl : first = cell := Option.some.inj present
      simp only [List.modify_zero_cons, List.countP_cons]
      omega
    | succ k =>
      have tail := ih (k := k) (by simpa using present)
      simp only [List.modify_succ_cons, List.countP_cons]
      omega

namespace World

variable {σ : Type} (w : World σ)

/-- How many units in use an index has. -/
def unitsOf (i : Index) : Nat := w.units.countP fun cell => cell.index = i ∧ 0 < cell.owners

private theorem owners_addIndex (raw : IndexHandle) (i : Index) :
    i.owners (w.addIndex raw) = if i.cell = w.indexes.length then 1 else i.owners w := by
  simp only [Index.owners, addIndex, List.getElem?_append]
  rcases Nat.lt_trichotomy i.cell w.indexes.length with inside | last | outside
  · simp [inside, Nat.ne_of_lt inside]
  · simp [last]
  · have beyond : w.indexes.length ≤ i.cell := Nat.le_of_lt outside
    simp [Nat.not_lt.mpr beyond, Nat.ne_of_gt outside, Nat.sub_ne_zero_of_lt outside]

private theorem raw_addIndex (raw : IndexHandle) {i : Index} (known : i.cell < w.indexes.length) :
    i.raw (w.addIndex raw) = i.raw w := by
  simp only [Index.raw, addIndex, List.getElem?_append_left known]

private theorem unit_owners_addUnit (raw : UnitHandle) (i : Index) (u : TranslationUnit) :
    u.owners (w.addUnit raw i) = if u.cell = w.units.length then 1 else u.owners w := by
  simp only [TranslationUnit.owners, addUnit, List.getElem?_append]
  rcases Nat.lt_trichotomy u.cell w.units.length with inside | last | outside
  · simp [inside, Nat.ne_of_lt inside]
  · simp [last]
  · have beyond : w.units.length ≤ u.cell := Nat.le_of_lt outside
    simp [Nat.not_lt.mpr beyond, Nat.ne_of_gt outside, Nat.sub_ne_zero_of_lt outside]

private theorem unitsOf_addUnit (raw : UnitHandle) (j i : Index) :
    (w.addUnit raw j).unitsOf i = w.unitsOf i + if j = i then 1 else 0 := by
  simp only [unitsOf, addUnit, List.countP_append, List.countP_singleton, decide_eq_true_eq,
    Nat.zero_lt_one, and_true]

theorem map_raw_countIndex (i : Index) (f : Nat → Nat) :
    (w.countIndex i f).indexes.map (·.raw) = w.indexes.map (·.raw) :=
  map_modify_same (by intro cell; rfl) _ _

theorem map_source_countUnit (u : TranslationUnit) (f : Nat → Nat) :
    (w.countUnit u f).units.map (fun cell => (cell.raw, cell.index)) =
      w.units.map fun cell => (cell.raw, cell.index) :=
  map_modify_same (by intro cell; rfl) _ _

theorem generation_countUnit (u v : TranslationUnit) (f : Nat → Nat) :
    v.generation (w.countUnit u f) = v.generation w := by
  simp only [TranslationUnit.generation, countUnit, List.getElem?_modify]
  cases w.units[v.cell]? <;> by_cases here : u.cell = v.cell <;> simp [here]

/-- A new unit has the generation that units have before they are made. -/
theorem generation_addUnit (raw : UnitHandle) (i : Index) (v : TranslationUnit) :
    v.generation (w.addUnit raw i) = v.generation w := by
  simp only [TranslationUnit.generation, addUnit, List.getElem?_append]
  split
  · rfl
  · next beyond =>
    rw [List.getElem?_eq_none (Nat.not_lt.mp beyond)]
    cases inside : v.cell - w.units.length <;> rfl

theorem map_source_renew (u : TranslationUnit) :
    (w.renew u).units.map (fun cell => (cell.raw, cell.index)) =
      w.units.map fun cell => (cell.raw, cell.index) :=
  map_modify_same (by intro cell; rfl) _ _

theorem unit_owners_renew (u v : TranslationUnit) : v.owners (w.renew u) = v.owners w := by
  simp only [TranslationUnit.owners, renew, List.getElem?_modify]
  cases w.units[v.cell]? <;> by_cases here : u.cell = v.cell <;> simp [here]

/-- To renew a unit moves its own generation by one, and no other. -/
theorem generation_renew {u : TranslationUnit} (known : u.cell < w.units.length) (v : TranslationUnit) :
    v.generation (w.renew u) = v.generation w + if u = v then 1 else 0 := by
  simp only [TranslationUnit.generation, renew, List.getElem?_modify]
  by_cases here : u = v
  · subst here
    simp [List.getElem?_eq_getElem known]
  · have apart : u.cell ≠ v.cell := fun same => here (congrArg TranslationUnit.mk same)
    cases w.units[v.cell]? <;> simp [here, apart]

private theorem countP_renew (u : TranslationUnit) {p : UnitCell → Bool}
    (blind : ∀ cell generation, p { cell with generation } = p cell) :
    (w.renew u).units.countP p = w.units.countP p := by
  have same := congrArg (List.countP id) (map_modify_same (f := fun cell : UnitCell =>
    { cell with generation := cell.generation + 1 }) (fun cell => blind cell _) w.units u.cell)
  simpa only [renew, List.countP_map, Function.id_comp] using same

@[simp] theorem raw_countIndex (i j : Index) (f : Nat → Nat) : j.raw (w.countIndex i f) = j.raw w := by
  simp only [Index.raw, countIndex, List.getElem?_modify]
  cases w.indexes[j.cell]? <;> by_cases here : i.cell = j.cell <;> simp [here]

@[simp] theorem unit_raw_countUnit (u v : TranslationUnit) (f : Nat → Nat) :
    v.raw (w.countUnit u f) = v.raw w := by
  simp only [TranslationUnit.raw, countUnit, List.getElem?_modify]
  cases w.units[v.cell]? <;> by_cases here : u.cell = v.cell <;> simp [here]

/-- An index that is owned has its cell, where its handle and its owners are. -/
theorem exists_cell_of_owned {i : Index} (owned : 0 < i.owners w) :
    ∃ cell, w.indexes[i.cell]? = some cell ∧ cell.raw = i.raw w ∧ cell.owners = i.owners w := by
  cases present : w.indexes[i.cell]? with
  | none => simp [Index.owners, present] at owned
  | some cell => exact ⟨cell, rfl, by simp [Index.raw, present], by simp [Index.owners, present]⟩

theorem known_of_owned {i : Index} (owned : 0 < i.owners w) : i.cell < w.indexes.length := by
  obtain ⟨cell, present, -⟩ := w.exists_cell_of_owned owned
  exact (List.getElem?_eq_some_iff.mp present).1

/-- A unit that is owned has its cell, where its handle, its index and its owners are. -/
theorem exists_unit_cell_of_owned {u : TranslationUnit} (owned : 0 < u.owners w) :
    ∃ cell, w.units[u.cell]? = some cell ∧ cell.raw = u.raw w ∧ cell.index = u.index w ∧
      cell.owners = u.owners w := by
  cases present : w.units[u.cell]? with
  | none => simp [TranslationUnit.owners, present] at owned
  | some cell =>
    exact ⟨cell, rfl, by simp [TranslationUnit.raw, present], by simp [TranslationUnit.index, present],
      by simp [TranslationUnit.owners, present]⟩

private theorem owners_countIndex {i : Index} (owned : 0 < i.owners w) (f : Nat → Nat) (j : Index) :
    j.owners (w.countIndex i f) = if j = i then f (i.owners w) else j.owners w := by
  obtain ⟨cell, present, -, owners⟩ := w.exists_cell_of_owned owned
  by_cases here : j = i
  · subst here
    simp [Index.owners, countIndex, present]
  · have apart : i.cell ≠ j.cell := fun same => here (congrArg Index.mk same).symm
    simp [Index.owners, countIndex, apart, here]

/-- To count the owners of a unit changes no other unit's. -/
theorem unit_owners_countUnit {u : TranslationUnit} (owned : 0 < u.owners w) (f : Nat → Nat)
    (v : TranslationUnit) :
    v.owners (w.countUnit u f) = if v = u then f (u.owners w) else v.owners w := by
  obtain ⟨cell, present, -, -, owners⟩ := w.exists_unit_cell_of_owned owned
  by_cases here : v = u
  · subst here
    simp [TranslationUnit.owners, countUnit, present]
  · have apart : u.cell ≠ v.cell := fun same => here (congrArg TranslationUnit.mk same).symm
    simp [TranslationUnit.owners, countUnit, apart, here]

/-- Counting the owners of a unit may take it in or out of use. -/
theorem unitsOf_countUnit {u : TranslationUnit} (owned : 0 < u.owners w) (f : Nat → Nat) (i : Index) :
    (w.countUnit u f).unitsOf i + (if u.index w = i then 1 else 0) =
      w.unitsOf i + if u.index w = i ∧ 0 < f (u.owners w) then 1 else 0 := by
  obtain ⟨cell, present, -, index, owners⟩ := w.exists_unit_cell_of_owned owned
  have counted := countP_modify (p := fun cell : UnitCell => decide (cell.index = i ∧ 0 < cell.owners))
    (f := fun cell => { cell with owners := f cell.owners }) present
  simpa [unitsOf, countUnit, index, owners, owned] using counted

/-- Counting the owners of an index may add it to those without owners. -/
theorem disposed_countIndex {i : Index} (owned : 0 < i.owners w) (f : Nat → Nat) (raw : IndexHandle) :
    (w.countIndex i f).indexes.countP (fun cell => cell.raw = raw ∧ cell.owners = 0) =
      w.indexes.countP (fun cell => cell.raw = raw ∧ cell.owners = 0) +
        if i.raw w = raw ∧ f (i.owners w) = 0 then 1 else 0 := by
  obtain ⟨cell, present, handle, owners⟩ := w.exists_cell_of_owned owned
  have counted := countP_modify (p := fun cell : IndexCell => decide (cell.raw = raw ∧ cell.owners = 0))
    (f := fun cell => { cell with owners := f cell.owners }) present
  have used : i.owners w ≠ 0 := Nat.ne_of_gt owned
  simpa [countIndex, handle, owners, used] using counted

/-- Counting the owners of a unit may add it to those without owners. -/
theorem disposed_countUnit {u : TranslationUnit} (owned : 0 < u.owners w) (f : Nat → Nat)
    (raw : UnitHandle) :
    (w.countUnit u f).units.countP (fun cell => cell.raw = raw ∧ cell.owners = 0) =
      w.units.countP (fun cell => cell.raw = raw ∧ cell.owners = 0) +
        if u.raw w = raw ∧ f (u.owners w) = 0 then 1 else 0 := by
  obtain ⟨cell, present, handle, -, owners⟩ := w.exists_unit_cell_of_owned owned
  have counted := countP_modify (p := fun cell : UnitCell => decide (cell.raw = raw ∧ cell.owners = 0))
    (f := fun cell => { cell with owners := f cell.owners }) present
  have used : u.owners w ≠ 0 := Nat.ne_of_gt owned
  simpa [countUnit, handle, owners, used] using counted

end World

/-! ## The balance -/

/-- Every cell has the owners that there are, and the calls say of the cells what the cells say. -/
structure Books.Balanced (b : Books) (held : Multiset Owner) : Prop where
  index_owners : ∀ i : Index, i.owners b = held.count (.index i) + b.unitsOf i
  unit_owners : ∀ u : TranslationUnit, u.owners b = held.count (.unit u)
  units_indexed : ∀ cell ∈ b.units, cell.index.cell < b.indexes.length
  indexes_made : madeIndexes b.calls = b.indexes.map (·.raw)
  units_made : madeUnits b.calls = b.units.map fun cell => (cell.raw, cell.index.raw b)
  indexes_disposed : ∀ raw, (ledger b.calls).count (.indexDisposed raw) =
    b.indexes.countP fun cell => cell.raw = raw ∧ cell.owners = 0
  units_disposed : ∀ raw, (ledger b.calls).count (.unitDisposed raw) =
    b.units.countP fun cell => cell.raw = raw ∧ cell.owners = 0

namespace Books.Balanced

variable {b : Books} {held : Multiset Owner}

/-- At the start nothing is held and no cell is in use. -/
theorem start : Books.Balanced (World.start ()) 0 where
  index_owners i := by simp [Index.owners, World.start, World.unitsOf]
  unit_owners u := by simp [TranslationUnit.owners, World.start]
  units_indexed cell member := by cases member
  indexes_made := rfl
  units_made := rfl
  indexes_disposed raw := rfl
  units_disposed raw := rfl

/-- What is held is counted in its cell. -/
theorem owned_of_mem (balanced : b.Balanced held) {i : Index} (own : .index i ∈ held) :
    0 < i.owners b := by
  have counted := Multiset.count_pos.mpr own
  have owners := balanced.index_owners i
  omega

theorem unit_owned_of_mem (balanced : b.Balanced held) {u : TranslationUnit} (own : .unit u ∈ held) :
    0 < u.owners b := by
  rw [balanced.unit_owners u]
  exact Multiset.count_pos.mpr own

/-- The index of a unit in use is in use. -/
theorem owned_of_unit (balanced : b.Balanced held) {u : TranslationUnit} (owned : 0 < u.owners b) :
    0 < (u.index b).owners b := by
  obtain ⟨cell, present, -, index, owners⟩ := b.exists_unit_cell_of_owned owned
  have used : 0 < b.unitsOf (u.index b) := by
    rw [World.unitsOf, List.countP_pos_iff]
    exact ⟨cell, List.mem_of_getElem? present, by simp [index, owners, owned]⟩
  have owners := balanced.index_owners (u.index b)
  omega

/-- The index of a new owner is an index in use. -/
theorem index_owned (balanced : b.Balanced held) {i : Index}
    (own : .index i ∈ held ∨ ∃ u, .unit u ∈ held ∧ u.index b = i) : 0 < i.owners b := by
  rcases own with own | ⟨u, own, rfl⟩
  · exact balanced.owned_of_mem own
  · exact balanced.owned_of_unit (balanced.unit_owned_of_mem own)

/-- A call by which neither indexes nor units pass. -/
theorem log (balanced : b.Balanced held) {call : Call} {after : Multiset Owner}
    (indexes : ∀ i, after.count (.index i) = held.count (.index i))
    (units : ∀ u, after.count (.unit u) = held.count (.unit u))
    (other : ∀ p, call.passage? = some p → p.madeIndex? = none ∧ p.madeUnit? = none ∧
      (∀ raw, p ≠ .indexDisposed raw) ∧ ∀ raw, p ≠ .unitDisposed raw) :
    Books.Balanced (b.log call) after where
  index_owners i := (balanced.index_owners i).trans (by rw [indexes]; rfl)
  unit_owners u := (balanced.unit_owners u).trans (by rw [units])
  units_indexed := balanced.units_indexed
  indexes_made := by
    have passed : call.passage?.bind Passage.madeIndex? = none :=
      Option.bind_eq_none_iff.mpr fun p passed => (other p passed).1
    simpa [World.log, madeIndexes_concat, passed] using balanced.indexes_made
  units_made := by
    have passed : call.passage?.bind Passage.madeUnit? = none :=
      Option.bind_eq_none_iff.mpr fun p passed => (other p passed).2.1
    refine Eq.trans ?_ balanced.units_made
    simp [World.log, madeUnits_concat, passed]
  indexes_disposed raw := by
    have passed : call.passage? ≠ some (.indexDisposed raw) := fun passed =>
      (other _ passed).2.2.1 raw rfl
    simpa [World.log, count_ledger_concat, passed] using balanced.indexes_disposed raw
  units_disposed raw := by
    have passed : call.passage? ≠ some (.unitDisposed raw) := fun passed =>
      (other _ passed).2.2.2 raw rfl
    simpa [World.log, count_ledger_concat, passed] using balanced.units_disposed raw

private theorem openIndex (balanced : b.Balanced held) {options : IndexOptions} {raw : IndexHandle}
    (valid : raw.isNull = false) :
    Books.Balanced ((b.log (.asked (.createIndex options) raw)).addIndex raw)
      (.index ⟨b.indexes.length⟩ ::ₘ held) := by
  have passed : (Call.asked (.createIndex options) raw).passage? = some (.indexMade raw) := by
    simp [Call.passage?, valid]
  have outside : Index.owners ⟨b.indexes.length⟩ b = 0 := by simp [Index.owners]
  constructor
  case index_owners =>
    intro i
    rw [World.owners_addIndex, Multiset.count_cons]
    change (if i.cell = b.indexes.length then 1 else i.owners b) = _ + b.unitsOf i
    have owners := balanced.index_owners i
    by_cases here : i = ⟨b.indexes.length⟩
    · subst here
      simp only [↓reduceIte]
      omega
    · have apart : i.cell ≠ b.indexes.length := fun same => here (congrArg Index.mk same)
      simpa [apart, here] using owners
  case unit_owners =>
    intro u
    rw [Multiset.count_cons_of_ne (by simp)]
    exact balanced.unit_owners u
  case units_indexed =>
    intro cell member
    have bound := balanced.units_indexed cell member
    simp only [World.addIndex, World.log, List.length_append, List.length_singleton]
    omega
  case indexes_made =>
    simp [World.addIndex, World.log, madeIndexes_concat, passed, Passage.madeIndex?, balanced.indexes_made]
  case units_made =>
    simp only [World.addIndex, World.log, madeUnits_concat, passed, Passage.madeUnit?, balanced.units_made,
      Option.bind_some, Option.toList_none, List.append_nil]
    exact List.map_congr_left fun cell member =>
      congrArg (cell.raw, ·) (World.raw_addIndex _ _ (balanced.units_indexed cell member)).symm
  case indexes_disposed =>
    intro raw'
    simpa [World.addIndex, World.log, count_ledger_concat, passed] using balanced.indexes_disposed raw'
  case units_disposed =>
    intro raw'
    simpa [World.addIndex, World.log, count_ledger_concat, passed] using balanced.units_disposed raw'

private theorem openUnit {i : Index} (balanced : b.Balanced (.index i ::ₘ held)) {call : Call} {raw : UnitHandle}
    (made : call.passage? = some (.unitMade raw (i.raw b))) :
    Books.Balanced ((b.log call).addUnit raw i) (.unit ⟨b.units.length⟩ ::ₘ held) := by
  have outside : TranslationUnit.owners ⟨b.units.length⟩ b = 0 := by simp [TranslationUnit.owners]
  constructor
  case index_owners =>
    intro j
    rw [World.unitsOf_addUnit, Multiset.count_cons_of_ne (by simp)]
    change j.owners b = _ + (b.unitsOf j + _)
    have owners := balanced.index_owners j
    simp only [Multiset.count_cons, Owner.index.injEq, eq_comm (a := j)] at owners
    omega
  case unit_owners =>
    intro u
    rw [World.unit_owners_addUnit, Multiset.count_cons]
    change (if u.cell = b.units.length then 1 else u.owners b) = _
    have owners := balanced.unit_owners u
    rw [Multiset.count_cons_of_ne (by simp)] at owners
    by_cases here : u = ⟨b.units.length⟩
    · subst here
      simp only [↓reduceIte]
      omega
    · have apart : u.cell ≠ b.units.length := fun same => here (congrArg TranslationUnit.mk same)
      simpa [apart, here] using owners
  case units_indexed =>
    intro cell member
    rcases List.mem_append.mp member with old | new
    · exact balanced.units_indexed cell old
    · obtain rfl := List.mem_singleton.mp new
      exact b.known_of_owned (balanced.owned_of_mem (Multiset.mem_cons_self _ _))
  case indexes_made =>
    simpa [World.addUnit, World.log, madeIndexes_concat, made, Passage.madeIndex?] using balanced.indexes_made
  case units_made =>
    simp [World.addUnit, World.log, madeUnits_concat, made, Passage.madeUnit?, balanced.units_made]
    exact ⟨fun _ _ => rfl, rfl⟩
  case indexes_disposed =>
    intro raw'
    simpa [World.addUnit, World.log, count_ledger_concat, made] using balanced.indexes_disposed raw'
  case units_disposed =>
    intro raw'
    simpa [World.addUnit, World.log, count_ledger_concat, made] using balanced.units_disposed raw'

/-- The owners of an index are counted anew, and the index is disposed if there are none left. -/
theorem recountIndex (balanced : b.Balanced held) {i : Index} (owned : 0 < i.owners b) (f : Nat → Nat)
    (calls : List Call) {after : Multiset Owner}
    (here : f (i.owners b) = after.count (.index i) + b.unitsOf i)
    (elsewhere : ∀ j, j ≠ i → after.count (.index j) = held.count (.index j))
    (units : ∀ u, after.count (.unit u) = held.count (.unit u))
    (indexes_made : madeIndexes calls = madeIndexes b.calls)
    (units_made : madeUnits calls = madeUnits b.calls)
    (indexes_disposed : ∀ raw, (ledger calls).count (.indexDisposed raw) =
      (ledger b.calls).count (.indexDisposed raw) + if i.raw b = raw ∧ f (i.owners b) = 0 then 1 else 0)
    (units_disposed : ∀ raw, (ledger calls).count (.unitDisposed raw) =
      (ledger b.calls).count (.unitDisposed raw)) :
    Books.Balanced { b.countIndex i f with calls } after where
  index_owners j := by
    change j.owners (b.countIndex i f) = _ + b.unitsOf j
    rw [World.owners_countIndex b owned]
    by_cases same : j = i
    · subst same
      simpa using here
    · simpa [same, elsewhere j same] using balanced.index_owners j
  unit_owners u := (balanced.unit_owners u).trans (units u).symm
  units_indexed cell member := by
    simpa [World.countIndex] using balanced.units_indexed cell member
  indexes_made := by
    rw [indexes_made, balanced.indexes_made]
    exact (World.map_raw_countIndex b i f).symm
  units_made := by
    rw [units_made, balanced.units_made]
    exact List.map_congr_left fun cell _ =>
      congrArg (cell.raw, ·) (World.raw_countIndex b i cell.index f).symm
  indexes_disposed raw := by
    rw [indexes_disposed, balanced.indexes_disposed]
    exact (World.disposed_countIndex b owned f raw).symm
  units_disposed raw := (units_disposed raw).trans (balanced.units_disposed raw)

/-- The owners of a unit are counted anew. If there are none left the unit is disposed and whoever
disposed it owns its index. -/
theorem recountUnit (balanced : b.Balanced held) {u : TranslationUnit} (owned : 0 < u.owners b)
    (f : Nat → Nat) (calls : List Call) {after : Multiset Owner}
    (here : f (u.owners b) = after.count (.unit u))
    (elsewhere : ∀ v, v ≠ u → after.count (.unit v) = held.count (.unit v))
    (indexes : ∀ i, after.count (.index i) =
      held.count (.index i) + if u.index b = i ∧ f (u.owners b) = 0 then 1 else 0)
    (indexes_made : madeIndexes calls = madeIndexes b.calls)
    (units_made : madeUnits calls = madeUnits b.calls)
    (indexes_disposed : ∀ raw, (ledger calls).count (.indexDisposed raw) =
      (ledger b.calls).count (.indexDisposed raw))
    (units_disposed : ∀ raw, (ledger calls).count (.unitDisposed raw) =
      (ledger b.calls).count (.unitDisposed raw) + if u.raw b = raw ∧ f (u.owners b) = 0 then 1 else 0) :
    Books.Balanced { b.countUnit u f with calls } after where
  index_owners i := by
    change i.owners b = _ + (b.countUnit u f).unitsOf i
    have counted := World.unitsOf_countUnit b owned f i
    have owners := balanced.index_owners i
    have gained := indexes i
    by_cases source : u.index b = i <;> by_cases last : f (u.owners b) = 0 <;>
      simp [source, last, Nat.pos_iff_ne_zero] at counted gained <;> omega
  unit_owners v := by
    change v.owners (b.countUnit u f) = _
    rw [World.unit_owners_countUnit b owned]
    by_cases same : v = u
    · subst same
      simpa using here
    · simpa [same, elsewhere v same] using balanced.unit_owners v
  units_indexed cell member := by
    obtain ⟨k, present⟩ := List.mem_iff_getElem?.mp member
    simp only [World.countUnit, List.getElem?_modify, Option.map_eq_map, Option.map_eq_some_iff] at present
    obtain ⟨old, present, rfl⟩ := present
    have bound := balanced.units_indexed old (List.mem_of_getElem? present)
    split <;> exact bound
  indexes_made := indexes_made.trans balanced.indexes_made
  units_made := by
    have same := congrArg (List.map fun cell => (cell.1, cell.2.raw b)) (World.map_source_countUnit b u f)
    rw [units_made, balanced.units_made]
    change _ = (b.countUnit u f).units.map fun cell => (cell.raw, cell.index.raw b)
    simpa only [List.map_map, Function.comp_def] using same.symm
  indexes_disposed raw := (indexes_disposed raw).trans (balanced.indexes_disposed raw)
  units_disposed raw := by
    rw [units_disposed, balanced.units_disposed]
    exact (World.disposed_countUnit b owned f raw).symm

/-- A new generation of a unit changes no owner. -/
theorem renew (balanced : b.Balanced held) (u : TranslationUnit) : Books.Balanced (b.renew u) held where
  index_owners i := (balanced.index_owners i).trans
    (congrArg _ (World.countP_renew b u (by intro cell generation; rfl)).symm)
  unit_owners v := (World.unit_owners_renew b u v).trans (balanced.unit_owners v)
  units_indexed cell member := by
    have source : (cell.raw, cell.index) ∈ b.units.map fun cell => (cell.raw, cell.index) := by
      rw [← World.map_source_renew b u]
      exact List.mem_map_of_mem member
    obtain ⟨old, member, same⟩ := List.mem_map.mp source
    obtain ⟨-, index⟩ := Prod.mk.inj same
    exact index ▸ balanced.units_indexed old member
  indexes_made := balanced.indexes_made
  units_made := by
    have same := congrArg (List.map fun cell => (cell.1, cell.2.raw b)) (World.map_source_renew b u)
    apply balanced.units_made.trans
    change _ = (b.renew u).units.map fun cell => (cell.raw, cell.index.raw b)
    simpa only [List.map_map, Function.comp_def] using same.symm
  indexes_disposed := balanced.indexes_disposed
  units_disposed raw := (balanced.units_disposed raw).trans
    (World.countP_renew b u (by intro cell generation; rfl)).symm

/-- Whoever has an index, by itself or by a unit made from it, may take another share. -/
theorem ownIndex (balanced : b.Balanced held) {i : Index}
    (own : .index i ∈ held ∨ ∃ u, .unit u ∈ held ∧ u.index b = i) :
    Books.Balanced (b.countIndex i (· + 1)) (.index i ::ₘ held) := by
  have owners := balanced.index_owners i
  refine balanced.recountIndex (balanced.index_owned own) (· + 1) b.calls ?_ ?_ ?_ rfl rfl ?_ ?_
  · simp only [Multiset.count_cons_self]
    omega
  · exact fun j apart => Multiset.count_cons_of_ne (by simpa using apart) _
  · exact fun u => Multiset.count_cons_of_ne (by simp) _
  · simp
  · simp

private theorem ownUnit (balanced : b.Balanced held) {u : TranslationUnit} (own : .unit u ∈ held) :
    Books.Balanced (b.countUnit u (· + 1)) (.unit u ::ₘ held) := by
  have owners := balanced.unit_owners u
  refine balanced.recountUnit (balanced.unit_owned_of_mem own) (· + 1) b.calls ?_ ?_ ?_ rfl rfl ?_ ?_
  · simp only [Multiset.count_cons_self]
    omega
  · exact fun v apart => Multiset.count_cons_of_ne (by simpa using apart) _
  · intro i
    simp
  · simp
  · simp

private theorem disownIndex {i : Index} (balanced : b.Balanced (.index i ::ₘ held)) (more : i.owners b ≠ 1) :
    Books.Balanced (b.countIndex i (· - 1)) held := by
  have owned := balanced.owned_of_mem (Multiset.mem_cons_self _ _)
  have owners := balanced.index_owners i
  rw [Multiset.count_cons_self] at owners
  refine balanced.recountIndex owned (· - 1) b.calls ?_ ?_ ?_ rfl rfl ?_ ?_
  · omega
  · exact fun j apart => (Multiset.count_cons_of_ne (by simpa using apart) _).symm
  · exact fun u => (Multiset.count_cons_of_ne (by simp) _).symm
  · intro raw
    have left : i.owners b - 1 ≠ 0 := by omega
    simp [left]
  · simp

private theorem closeIndex {i : Index} (balanced : b.Balanced (.index i ::ₘ held)) (last : i.owners b = 1) :
    Books.Balanced ((b.countIndex i (· - 1)).log (.asked (.disposeIndex (i.raw b)) ())) held := by
  have owned := balanced.owned_of_mem (Multiset.mem_cons_self _ _)
  have owners := balanced.index_owners i
  rw [Multiset.count_cons_self] at owners
  refine balanced.recountIndex owned (· - 1) (b.calls ++ [_]) ?_ ?_ ?_ ?_ ?_ ?_ ?_
  · omega
  · exact fun j apart => (Multiset.count_cons_of_ne (by simpa using apart) _).symm
  · exact fun u => (Multiset.count_cons_of_ne (by simp) _).symm
  · simp [madeIndexes_concat, Call.passage?, Passage.madeIndex?]
  · simp [madeUnits_concat, Call.passage?, Passage.madeUnit?]
  · simp [count_ledger_concat, Call.passage?, last]
  · simp [count_ledger_concat, Call.passage?]

private theorem disownUnit {u : TranslationUnit} (balanced : b.Balanced (.unit u ::ₘ held)) (more : u.owners b ≠ 1) :
    Books.Balanced (b.countUnit u (· - 1)) held := by
  have owned := balanced.unit_owned_of_mem (Multiset.mem_cons_self _ _)
  have owners := balanced.unit_owners u
  rw [Multiset.count_cons_self] at owners
  have left : u.owners b - 1 ≠ 0 := by omega
  refine balanced.recountUnit owned (· - 1) b.calls ?_ ?_ ?_ rfl rfl ?_ ?_
  · omega
  · exact fun v apart => (Multiset.count_cons_of_ne (by simpa using apart) _).symm
  · intro i
    simp [left]
  · simp
  · simp [left]

/-- The unit's owner of the index becomes an owner of its own. -/
theorem closeUnit {u : TranslationUnit} (balanced : b.Balanced (.unit u ::ₘ held)) (last : u.owners b = 1) :
    Books.Balanced ((b.countUnit u (· - 1)).log (.asked (.disposeUnit (u.raw b)) ()))
      (.index (u.index b) ::ₘ held) := by
  have owned := balanced.unit_owned_of_mem (Multiset.mem_cons_self _ _)
  have owners := balanced.unit_owners u
  rw [Multiset.count_cons_self] at owners
  refine balanced.recountUnit owned (· - 1) (b.calls ++ [_]) ?_ ?_ ?_ ?_ ?_ ?_ ?_
  · simp only [Multiset.count_cons_of_ne (by simp : Owner.unit u ≠ .index (u.index b))]
    omega
  · intro v apart
    simp [apart]
  · intro i
    simp [Multiset.count_cons, last, eq_comm]
  · simp [madeIndexes_concat, Call.passage?, Passage.madeIndex?]
  · simp [madeUnits_concat, Call.passage?, Passage.madeUnit?]
  · simp [count_ledger_concat, Call.passage?]
  · simp [count_ledger_concat, Call.passage?, last]

/-- Every entry keeps the balance. -/
theorem entry {next : Books} {after : Multiset Owner} (entered : Books.Entry (b, held) (next, after))
    (balanced : b.Balanced held) : next.Balanced after := by
  cases entered with
  | call plain => exact balanced.log (fun _ => rfl) (fun _ => rfl) (by simp [plain])
  | openIndex valid => exact balanced.openIndex valid
  | openUnit made => exact balanced.openUnit made
  | ownIndex own => exact balanced.ownIndex own
  | ownUnit own => exact balanced.ownUnit own
  | disownIndex more => exact balanced.disownIndex more
  | closeIndex last => exact balanced.closeIndex last
  | disownUnit more => exact balanced.disownUnit more
  | closeUnit last => exact balanced.closeUnit last
  | receiveString made =>
    exact balanced.log (by simp) (by simp) (by simp [made, Passage.madeIndex?, Passage.madeUnit?])
  | readString valid =>
    exact balanced.log (by simp) (by simp) (by simp [Call.passage?, Passage.madeIndex?, Passage.madeUnit?])
  | disposeString valid =>
    exact balanced.log (by simp) (by simp) (by simp [Call.passage?, Passage.madeIndex?, Passage.madeUnit?])

end Books.Balanced

end HandleGraph
