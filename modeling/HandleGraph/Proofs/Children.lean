import HandleGraph.Proofs.Elements
import HandleGraph.Proofs.Iteration
import HandleGraph.Proofs.TreeTraversal

/-! # Children of a cursor

To ask a cursor for its children is one walk. Either all children on offer are handed out in their order, or
one of them is null and none is; the walk has stopped at the first null one then.

The children handed out are a list. Each is there for any access, and for as long as the sequence is kept; the
engine is not asked again.
-/

namespace HandleGraph

open Sequence

variable {σ : Type} {E : Engine σ} {load : Loading σ Unit} {c : Cursor} {u : TranslationUnit}
  {generation : UInt64} {raws : List CursorHandle} {w : World σ}

private theorem CursorHandle.isNull_iff (raw : CursorHandle) :
    raw.isNull ↔ raw.kind = nullCursorKind ∧ raw.data0 = 0 ∧ raw.data1 = 0 ∧ raw.data2 = 0 := by
  simp [CursorHandle.isNull, NullHandle.isNull, and_assoc]

/-! ### The list -/

/-- A sequence hands out a list of children, in any world and by any access. All that happens is that the
unit has one more owner for each cursor. -/
structure CursorSequence.Lists (E : Engine σ) (q : CursorSequence) (u : TranslationUnit) (generation : UInt64)
    (raws : List CursorHandle) : Prop where
  length : q.length = raws.length
  /-- Whether an access minds the length or not, it hands out the child at its position. -/
  reached : ∀ (a : Access) raw, raws[a.position raws.length]? = some raw → ∀ w,
    (a.reach E q).run w = (.ok (u.element generation raw), w.countUnit u (· + 1))
  /-- Past the end both kinds of access fail alike. -/
  beyond : ∀ a : Access, raws.length ≤ a.position raws.length → ∀ w,
    (a.reach E q).run w = (.error (.indexOutOfRange (a.position raws.length) raws.length), w)
  /-- An iterator starts with the whole list, which its back side takes in the reversed order. -/
  iter : ∀ side, (q.toSequence E).iter.back ≤ raws.length ∧
    (q.toSequence E).iter.left side raws = side.order raws
  /-- A step of an iterator at either side hands out the next child that is left there. -/
  next : ∀ (it : Iterator) side raw later, it.back ≤ raws.length → it.left side raws = raw :: later → ∀ w,
    ∃ rest, (q.toSequence E).next side it w =
        ((some (.ok (u.element generation raw)), rest), w.countUnit u (· + 1)) ∧
      rest.back ≤ raws.length ∧ rest.left side raws = later
  ended : ∀ (it : Iterator) side, it.back ≤ raws.length → it.left side raws = [] → ∀ w,
    (q.toSequence E).next side it w = ((none, it), w)
  drain : ∀ side w, (q.toSequence E).drain side (q.toSequence E).iter w =
    ((side.order raws).map fun raw => .ok (u.element generation raw), w.countUnit u (· + raws.length))

private theorem World.countUnit_iterate (w : World σ) (u : TranslationUnit) (n : Nat) :
    (fun w : World σ => w.countUnit u (· + 1))^[n] w = w.countUnit u (· + n) := by
  induction n with
  | zero =>
    have same : (fun cell : UnitCell => { cell with owners := cell.owners + 0 }) = id := rfl
    simp only [Function.iterate_zero, id_eq, World.countUnit, same, List.modify_id]
  | succ n ih =>
    rw [Function.iterate_succ_apply', ih]
    simp only [World.countUnit, List.modify_modify_eq]
    rfl

namespace CursorSequence

private theorem children_answer (E : Engine σ) (u : TranslationUnit) (generation : UInt64) (raws : List CursorHandle) :
    ((CursorSequence.mk u generation (.children raws)).toSequence E).AnswersFrom raws
      (fun raw => .ok (u.element generation raw)) (·.countUnit u (· + 1)) := by
  intro index raw present w
  simp only [toSequence, produce, present]
  rfl

/-- Children that were collected are handed out as they are. -/
theorem children_list (E : Engine σ) (u : TranslationUnit) (generation : UInt64) (raws : List CursorHandle) :
    Lists E ⟨u, generation, .children raws⟩ u generation raws where
  length := rfl
  reached a raw present w := by
    have inside : a.position raws.length < raws.length := (List.getElem?_eq_some_iff.mp present).1
    rw [a.reach_eq, if_neg (by rintro ⟨-, outside⟩; exact absurd outside (by simpa [length] using inside))]
    exact children_answer E u generation raws _ raw present w
  beyond a outside w := by
    rw [a.reach_eq]
    split_ifs
    · rfl
    · simp only [produce, length, List.getElem?_eq_none outside]
      rfl
  iter side := ⟨Nat.le_refl _, Iterator.left_iter _ side rfl⟩
  next it side raw later inside left w := (children_answer E u generation raws).next inside left w
  ended it side inside none w := next_of_none_left _ inside none w
  drain side w := by
    rw [(children_answer E u generation raws).drain (Nat.le_refl _), Iterator.left_iter _ side rfl,
      World.countUnit_iterate]
    rfl

end CursorSequence

/-! ### Asking for them -/

/-- What a cursor of a unit gives when it is asked for its children. -/
structure Cursor.GivesChildren (E : Engine σ) (load : Loading σ Unit) (c : Cursor) (u : TranslationUnit) :
    Prop where
  /-- A child is null when it has the null kind and no data, whatever its `xdata`. -/
  null : ∀ raw : CursorHandle, raw.isNull ↔ raw.kind = 70 ∧ raw.data0 = 0 ∧ raw.data1 = 0 ∧ raw.data2 = 0
  /-- All children on offer are handed out if none is null. One walk has shown each of them. -/
  whole : ∀ w raws engine, E.children c.raw untilNull w.engine = (raws, engine) →
    (∀ raw ∈ raws, raw.isNull = false) →
    (children E).run ⟨c, w⟩ = (.ok ⟨u, c.generation, .children raws⟩,
      ⟨c, (w.noted engine [.walked c.raw ⟨raws, false⟩] []).countUnit u (· + 1)⟩)
  /-- At the first null child the visitor stops the walk, and none is handed out. -/
  broken : ∀ w before raw rest engine, E.children c.raw untilNull w.engine = (before ++ raw :: rest, engine) →
    (∀ d ∈ before, d.isNull = false) → raw.isNull →
    (children E).run ⟨c, w⟩ = (.error .childVisitFailed,
      ⟨c, w.noted engine [.walked c.raw ⟨before ++ [raw], true⟩] [.nullChild]⟩)
  /-- What is handed out is the list of the children, as cursors of the same unit and generation. -/
  lists : ∀ raws, CursorSequence.Lists E ⟨u, c.generation, .children raws⟩ u c.generation raws
  /-- In a session the children are shown as long as their slot keeps them, whatever becomes of the cursor
  and of its unit. -/
  shown : ∀ (s : Session σ) ref raws engine, s.cursor? ref = some c →
    E.children c.raw untilNull s.world.engine = (raws, engine) → (∀ raw ∈ raws, raw.isNull = false) →
    ∀ slot later,
      Session.Meanwhile E load slot (Session.step E load ⟨.ask ref .children, some slot⟩ s).2 later →
        later.Shows E load slot ⟨u, c.generation, .children raws⟩

/-- A cursor of a unit gives its children in their order, all of them or none. -/
theorem Cursor.children_exact (E : Engine σ) (load : Loading σ Unit) (c : Cursor) (valid : c.isNull = false) :
    ∃ u, c.unit = some u ∧ c.GivesChildren E load u := by
  obtain ⟨u, alive⟩ := exists_live valid
  have whole : ∀ w raws engine, E.children c.raw untilNull w.engine = (raws, engine) →
      (∀ raw ∈ raws, raw.isNull = false) →
      (children E).run ⟨c, w⟩ = (.ok ⟨u, c.generation, .children raws⟩,
        ⟨c, (w.noted engine [.walked c.raw ⟨raws, false⟩] []).countUnit u (· + 1)⟩) := by
    intro w raws engine offered present
    refine (?_ : Ensures (children E) ⟨c, w⟩ fun result after => (result, after) = _)
    rw [children_iff (alive _), offered]
    simp only [walk_of_valid present, Bool.false_eq_true, ↓reduceIte]
  refine ⟨u, unit_of_live (alive "get_children"), CursorHandle.isNull_iff, whole, ?_,
    CursorSequence.children_list E u c.generation, ?_⟩
  · intro w before raw rest engine offered present null
    refine (?_ : Ensures (children E) ⟨c, w⟩ fun result after => (result, after) = _)
    rw [children_iff (alive _), offered]
    simp only [walk_of_null present null, ↓reduceIte]
  · intro s ref raws engine found offered present slot later meanwhile
    refine Session.shows (meanwhile.cursors (Session.kept_of_made found ?_ slot))
    refine Ensures.bind_iff.mpr ?_
    rw [Ensures, whole s.world raws engine offered present]
    exact ⟨rfl, _, rfl⟩

/-- The root of a family has two children, which are shown after the root was let go of and its unit reparsed.
The first of them has a null child. -/
theorem Cursor.children_exact_family :
    let step (command : Command) (into : Option String) (s : Session Script.State) : Session Script.State :=
      (Session.step Script.engine (pure ()) ⟨command, into⟩ s).2
    let s := Session.after Script.engine (pure ()) Sample.family (Sample.requests.take 3)
    let later := step (.reparse "unit" [] none) none
      (step (.drop "root") none (step (.ask ⟨"root", []⟩ .children) (some "children") s))
    let first := TranslationUnit.element ⟨0⟩ 0 (Sample.member 2)
    (∃ root, s.cursor? ⟨"root", []⟩ = some root ∧ root.isNull = false) ∧ first.isNull = false ∧
      later.Shows Script.engine (pure ()) "children" ⟨⟨0⟩, 0, .children [Sample.member 2, Sample.member 3]⟩ ∧
      ((children Script.engine).run ⟨first, s.world⟩).1 = .error .childVisitFailed := by
  intro step s later first
  obtain ⟨⟨raw, unit, generation, memo⟩, found, place⟩ : ∃ root, s.cursor? ⟨"root", []⟩ = some root ∧
      root.place = (Sample.member 1, some ⟨0⟩, 0) := Option.map_eq_some_iff.mp (by decide +kernel)
  obtain ⟨rfl, rfl, rfl⟩ : raw = _ ∧ unit = _ ∧ generation = _ := by simpa [Cursor.place] using place
  obtain ⟨_, ⟨⟩, whole⟩ := children_exact Script.engine (pure ()) ⟨Sample.member 1, some ⟨0⟩, 0, memo⟩ rfl
  obtain ⟨_, ⟨⟩, broken⟩ := children_exact Script.engine (pure ()) first rfl
  have offers (c : CursorHandle) {raws : List CursorHandle} {state : Script.State}
      (offered : (Script.engine.children c untilNull state).1 = raws) :
      Script.engine.children c untilNull state = (raws, state) := Prod.ext offered rfl
  have members : Script.engine.children (Sample.member 1) untilNull s.world.engine =
      ([Sample.member 2, Sample.member 3], s.world.engine) := offers _ (by decide +kernel)
  have absent : Script.engine.children (Sample.member 2) untilNull s.world.engine =
      ([] ++ CursorHandle.null :: [], s.world.engine) := offers _ (by decide +kernel)
  have meanwhile : Session.Meanwhile Script.engine (pure ()) "children"
      (step (.ask ⟨"root", []⟩ .children) (some "children") s) later :=
    .request (.request .nothing ⟨.drop "root", none⟩ (by simp [Session.Vacates])) ⟨.reparse "unit" [] none, none⟩
      (by simp [Session.Vacates])
  have failed := broken.broken s.world [] CursorHandle.null [] s.world.engine absent nofun rfl
  exact ⟨⟨_, found, rfl⟩, rfl, whole.shown s _ _ s.world.engine found members (by decide) "children" later meanwhile,
    congrArg Prod.fst failed⟩

end HandleGraph
