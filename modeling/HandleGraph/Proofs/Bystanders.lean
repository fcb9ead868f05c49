import HandleGraph.Proofs.Outstanding
import HandleGraph.Proofs.SlotLocality

/-! # Work on other units

Work that owns no owner of a unit leaves its cell as it is and comes to own none. As long as the unit is in
use, such work neither reparses it nor disposes it, and it does not dispose its index either: the unit is one
more owner of that. All of this rests on the engine not handing out a handle that is still in use.
-/

namespace HandleGraph

/-- The engine hands out no handle of an index or of a unit that is in use. -/
abbrev HandlesApart : List Call → Prop :=
  Throughout fun before call => ∀ r : Resource, (∀ t, r ≠ .string t) → call.passage?.any r.madeBy →
    outstanding before r ≤ 0

/-- Handles that stay apart to the end are apart at any point before. -/
theorem HandlesApart.of_prefix {calls more : List Call} (apart : HandlesApart more) (begins : calls <+: more) :
    HandlesApart calls := by
  obtain ⟨rest, rfl⟩ := begins
  intro before call after split
  exact apart before call (after ++ rest) (by simp [split])

/-- Then nothing is in use twice under one handle. -/
theorem HandlesApart.outstanding_le {calls : List Call} (apart : HandlesApart calls) {r : Resource}
    (native : ∀ t, r ≠ .string t) : outstanding calls r ≤ 1 := by
  induction calls using List.reverseRecOn with
  | nil => simp [outstanding, ledger]
  | append_singleton earlier call ih =>
    obtain ⟨before, last⟩ := throughout_concat.mp apart
    have sofar := ih before
    rw [outstanding_append]
    have here : outstanding [call] r ≤ if call.passage?.any r.madeBy then 1 else 0 := by
      have least : (0 : Int) ≤ call.passage?.toList.count r.disposal := Int.natCast_nonneg _
      rw [outstanding, ledger_cons, show ledger [] = [] from rfl, List.append_nil]
      cases passed : call.passage? with
      | none => simp
      | some p =>
        rw [passed] at least
        simp only [Option.toList_some, List.countP_singleton, Option.any_some] at least ⊢
        split_ifs <;> push_cast <;> omega
    split_ifs at here with made
    · have none := last r native made
      omega
    · omega

/-- All calls that are added are of one kind. -/
def AddsOnly (kind : Call → Prop) (calls later : List Call) : Prop :=
  ∃ new, later = calls ++ new ∧ ∀ call ∈ new, kind call

namespace AddsOnly

variable {kind : Call → Prop}

theorem refl (calls : List Call) : AddsOnly kind calls calls := ⟨[], (List.append_nil _).symm, by simp⟩

private theorem one {call : Call} (granted : kind call) (calls : List Call) : AddsOnly kind calls (calls ++ [call]) :=
  ⟨[call], rfl, by simpa using granted⟩

theorem trans {calls later last : List Call} (first : AddsOnly kind calls later) (second : AddsOnly kind later last) :
    AddsOnly kind calls last := by
  obtain ⟨new, rfl, granted⟩ := first
  obtain ⟨more, rfl, granted'⟩ := second
  refine ⟨new ++ more, List.append_assoc _ _ _, fun call member => ?_⟩
  exact (List.mem_append.mp member).elim (granted call) (granted' call)

theorem isPrefix {calls later : List Call} (adds : AddsOnly kind calls later) : calls <+: later := by
  obtain ⟨new, rfl, -⟩ := adds
  exact List.prefix_append _ _

end AddsOnly

/-- The query neither reparses nor disposes the unit, and does not dispose the index. -/
def Query.Spares (unit : UnitHandle) (index : IndexHandle) : Query → Prop
  | .reparse handle _ _ | .disposeUnit handle => handle ≠ unit
  | .disposeIndex handle => handle ≠ index
  | _ => True

/-- So does the call. A walk does neither. -/
def Call.Spares (unit : UnitHandle) (index : IndexHandle) : Call → Prop
  | .asked q _ => q.Spares unit index
  | .walked .. => True

/-- The call disposes neither the unit nor the index. -/
def Call.Retains (unit : UnitHandle) (index : IndexHandle) (call : Call) : Prop :=
  call.passage? ≠ some (.unitDisposed unit) ∧ call.passage? ≠ some (.indexDisposed index)

variable {unit : UnitHandle} {index : IndexHandle}

/-- A call that receives other units and disposes no index. -/
theorem Call.Obeys.spares {law : HandleLaw} {call : Call} (obeys : call.Obeys law)
    (others : ∀ raw, law.unit raw → raw ≠ unit) (keeps : ∀ raw, call.passage? ≠ some (.indexDisposed raw)) :
    call.Spares unit index := by
  cases call with
  | walked => trivial
  | asked q answer =>
    cases q with
    | reparse | disposeUnit => exact others _ obeys
    | disposeIndex raw => exact absurd rfl (keeps raw)
    | _ => trivial

/-- Two elements that are counted, where at most one is. -/
private theorem eq_of_countP_le_one {α : Type} {p : α → Bool} {cells : List α} (single : cells.countP p ≤ 1)
    {i j : Nat} {a b : α} (here : cells[i]? = some a) (there : cells[j]? = some b) (first : p a) (second : p b) :
    i = j := by
  induction cells generalizing i j with
  | nil => cases here
  | cons cell rest ih =>
    have counted {k : Nat} {c : α} (found : rest[k]? = some c) (hit : p c) : 0 < rest.countP p :=
      List.countP_pos_iff.mpr ⟨c, List.mem_of_getElem? found, hit⟩
    rw [List.countP_cons] at single
    cases i <;> cases j <;>
      simp only [List.getElem?_cons_zero, List.getElem?_cons_succ, Option.some.injEq] at here there
    · rfl
    · have later := counted there second
      simp only [here, first, ↓reduceIte] at single
      omega
    · have later := counted here first
      simp only [there, second, ↓reduceIte] at single
      omega
    · exact congrArg (· + 1) (ih (by omega) here there)

namespace Books.Balanced

variable {b : Books} {held : Multiset Owner}

/-- A handle that is in use once tells its unit among those in use. -/
theorem unit_eq_of_raw (balanced : b.Balanced held) {u v : TranslationUnit}
    (single : outstanding b.calls (.unit (u.raw b)) ≤ 1) (owned : 0 < u.owners b) (owned' : 0 < v.owners b)
    (same : v.raw b = u.raw b) : v = u := by
  rw [balanced.outstanding_unit] at single
  obtain ⟨cell, present, raw, -, owners⟩ := b.exists_unit_cell_of_owned owned
  obtain ⟨other, present', raw', -, owners'⟩ := b.exists_unit_cell_of_owned owned'
  refine congrArg TranslationUnit.mk (eq_of_countP_le_one (by exact_mod_cast single) present' present ?_ ?_)
  · simp [raw', same, owners', owned']
  · simp [raw, owners, owned]

private theorem index_eq_of_raw (balanced : b.Balanced held) {i j : Index}
    (single : outstanding b.calls (.index (i.raw b)) ≤ 1) (owned : 0 < i.owners b) (owned' : 0 < j.owners b)
    (same : j.raw b = i.raw b) : j = i := by
  rw [balanced.outstanding_index] at single
  obtain ⟨cell, present, raw, owners⟩ := b.exists_cell_of_owned owned
  obtain ⟨other, present', raw', owners'⟩ := b.exists_cell_of_owned owned'
  refine congrArg Index.mk (eq_of_countP_le_one (by exact_mod_cast single) present' present ?_ ?_)
  · simp [raw', same, owners', owned']
  · simp [raw, owners, owned]

/-- Whoever holds the index of a unit in use is not its last owner. -/
theorem index_owners_ne_one (balanced : b.Balanced held) {u : TranslationUnit} (owned : 0 < u.owners b)
    (own : .index (u.index b) ∈ held) : (u.index b).owners b ≠ 1 := by
  obtain ⟨cell, present, -, index, owners⟩ := b.exists_unit_cell_of_owned owned
  have used : 0 < b.unitsOf (u.index b) := by
    rw [World.unitsOf, List.countP_pos_iff]
    exact ⟨cell, List.mem_of_getElem? present, by simp [index, owners, owned]⟩
  have counted := Multiset.count_pos.mpr own
  have all := balanced.index_owners (u.index b)
  omega

end Books.Balanced

/-! ## Entries of others -/

namespace Books

variable {b later : Books} {held after : Multiset Owner} {u : TranslationUnit}

/-- An entry needs no more owners than it needs. -/
theorem Entry.frame (entered : Entry (b, held) (later, after)) (own : Multiset Owner) :
    Entry (b, held + own) (later, after + own) := by
  have more : held ⊆ held + own := fun _ member => Multiset.mem_add.mpr (.inl member)
  cases entered with
  | call plain law => exact .call plain (law.mono (b.heldBy_implies more))
  | openIndex valid => rw [Multiset.cons_add]; exact .openIndex valid
  | @openUnit _ rest _ _ i made law =>
    rw [Multiset.cons_add, Multiset.cons_add]
    refine .openUnit made (law.mono (b.heldBy_implies fun _ member => ?_))
    rw [← Multiset.cons_add]
    exact more member
  | ownIndex kept =>
    rw [Multiset.cons_add]
    exact .ownIndex (kept.imp (fun member => more member) (Exists.imp fun _ => And.imp_left fun member => more member))
  | ownUnit kept => rw [Multiset.cons_add]; exact .ownUnit (more kept)
  | disownIndex left => rw [Multiset.cons_add]; exact .disownIndex left
  | closeIndex last => rw [Multiset.cons_add]; exact .closeIndex last
  | disownUnit left => rw [Multiset.cons_add]; exact .disownUnit left
  | closeUnit last => rw [Multiset.cons_add, Multiset.cons_add]; exact .closeUnit last
  | receiveString made law => rw [Multiset.cons_add]; exact .receiveString made (law.mono (b.heldBy_implies more))
  | readString valid => rw [Multiset.cons_add, Multiset.cons_add]; exact .readString valid
  | disposeString valid => rw [Multiset.cons_add]; exact .disposeString valid

/-- Where nobody owns a unit its cell stays as it is, and nobody comes to own it. -/
theorem Entry.bystander (entered : Entry (b, held) (later, after)) (known : u.cell < b.units.length)
    (none : .unit u ∉ held) : later.units[u.cell]? = b.units[u.cell]? ∧ .unit u ∉ after := by
  have counted (v : TranslationUnit) (apart : u ≠ v) (f : Nat → Nat) :
      (b.countUnit v f).units[u.cell]? = b.units[u.cell]? :=
    List.getElem?_modify_ne _ _ fun same : v.cell = u.cell => apart (congrArg TranslationUnit.mk same.symm)
  cases entered with
  | call | disownIndex | closeIndex | disposeString | openIndex | ownIndex | receiveString | readString =>
    exact ⟨rfl, by simp_all⟩
  | openUnit =>
    refine ⟨List.getElem?_append_left known, ?_⟩
    simp only [Multiset.mem_cons, reduceCtorEq, false_or, Owner.unit.injEq, not_or] at none ⊢
    refine ⟨?_, none⟩
    rintro rfl
    exact Nat.lt_irrefl _ known
  | ownUnit kept =>
    have apart : u ≠ _ := fun same => none (same ▸ kept)
    exact ⟨counted _ apart _, by simp [apart, none]⟩
  | disownUnit | closeUnit =>
    simp only [Multiset.mem_cons, Owner.unit.injEq, not_or] at none
    exact ⟨counted _ none.1 (· - 1), by simp [none.2]⟩

/-- Where somebody else owns a unit, no entry reparses or disposes it or disposes its index. -/
theorem Entry.spares (entered : Entry (b, held) (later, after)) {own : Multiset Owner}
    (balanced : b.Balanced (held + own)) (mine : .unit u ∈ own) (none : .unit u ∉ held)
    (single : outstanding b.calls (.unit (u.raw b)) ≤ 1)
    (single' : outstanding b.calls (.index ((u.index b).raw b)) ≤ 1) :
    AddsOnly (·.Spares (u.raw b) ((u.index b).raw b)) b.calls later.calls := by
  have owned : 0 < u.owners b := balanced.unit_owned_of_mem (Multiset.mem_add.mpr (.inr mine))
  have otherUnit {v : TranslationUnit} (kept : .unit v ∈ held) : v.raw b ≠ u.raw b := by
    intro same
    have owned' := balanced.unit_owned_of_mem (Multiset.mem_add.mpr (.inl kept))
    exact none (balanced.unit_eq_of_raw single owned owned' same ▸ kept)
  have receives {call : Call} {more : Multiset Owner} (law : call.Obeys (b.heldBy more))
      (units : ∀ v, .unit v ∈ more → .unit v ∈ held)
      (keeps : ∀ raw, call.passage? ≠ some (.indexDisposed raw)) :
      AddsOnly (·.Spares (u.raw b) ((u.index b).raw b)) b.calls (b.calls ++ [call]) := by
    refine .one (law.spares ?_ keeps) _
    rintro raw ⟨v, kept, rfl⟩
    exact otherUnit (units v kept)
  cases entered with
  | call plain law => exact receives law (fun _ => id) (by simp [plain])
  | openIndex | readString | disposeString => exact .one trivial _
  | openUnit made law => exact receives law (by simp) (by simp [made])
  | receiveString made law => exact receives law (fun _ => id) (by simp [made])
  | ownIndex | ownUnit | disownIndex | disownUnit => exact .refl _
  | @closeIndex _ _ i last =>
    have kept : .index i ∈ .index i ::ₘ after + own := Multiset.mem_add.mpr (.inl (Multiset.mem_cons_self _ _))
    have apart : i ≠ u.index b := by
      rintro rfl
      exact balanced.index_owners_ne_one owned kept last
    have other : i.raw b ≠ (u.index b).raw b := fun same =>
      apart (balanced.index_eq_of_raw single' (balanced.owned_of_unit owned) (balanced.owned_of_mem kept) same)
    exact .one other _
  | closeUnit => exact .one (otherUnit (Multiset.mem_cons_self _ _)) _

/-- A unit that no one holds is left alone: its cell stays as it is and no one comes to hold it. -/
theorem Course.bystander {before after : Books × Multiset Owner} (ran : Course before after)
    (known : u.cell < before.1.units.length) (none : .unit u ∉ before.2) :
    after.1.units[u.cell]? = before.1.units[u.cell]? ∧ .unit u ∉ after.2 := by
  induction ran with
  | refl => exact ⟨rfl, none⟩
  | tail earlier entered ih =>
    have grown := Extends.course earlier
    obtain ⟨cell, free⟩ := entered.bystander (known.trans_le grown.units_length) ih.2
    exact ⟨cell.trans ih.1, free⟩

/-- The calls made by those who do not own a unit spare the unit of somebody else and its index. -/
theorem Course.spares {before after : Books × Multiset Owner} (ran : Course before after) {own : Multiset Owner}
    (balanced : before.1.Balanced (before.2 + own)) (mine : .unit u ∈ own) (none : .unit u ∉ before.2)
    (apart : HandlesApart after.1.calls) :
    after.1.Balanced (after.2 + own) ∧
      AddsOnly (·.Spares (u.raw before.1) ((u.index before.1).raw before.1)) before.1.calls after.1.calls := by
  have owned := balanced.unit_owned_of_mem (Multiset.mem_add.mpr (.inr mine))
  have known : u.cell < before.1.units.length := by
    obtain ⟨cell, present, -⟩ := before.1.exists_unit_cell_of_owned owned
    exact (List.getElem?_eq_some_iff.mp present).1
  have known' := before.1.known_of_owned (balanced.owned_of_unit owned)
  induction ran with
  | refl => exact ⟨balanced, .refl _⟩
  | @tail middle last earlier entered ih =>
    have grown := Extends.course earlier
    have apart' : HandlesApart middle.1.calls := apart.of_prefix (Extends.entry entered).calls
    obtain ⟨balanced', spared⟩ := ih apart'
    have spared' := entered.spares balanced' mine (bystander earlier known none).2 (apart'.outstanding_le nofun)
      (apart'.outstanding_le nofun)
    -- the handles of the unit and its index are the same as at first
    rw [grown.unit_raw known, grown.index_raw known known'] at spared'
    exact ⟨balanced'.entry (entered.frame own), spared.trans spared'⟩

/-- As long as a unit stays owned, no entry disposes it or its index. -/
theorem Entry.retains (entered : Entry (b, held) (later, after)) (balanced : b.Balanced held)
    (own : .unit u ∈ held) (own' : .unit u ∈ after) (single : outstanding b.calls (.unit (u.raw b)) ≤ 1)
    (single' : outstanding b.calls (.index ((u.index b).raw b)) ≤ 1) :
    AddsOnly (·.Retains (u.raw b) ((u.index b).raw b)) b.calls later.calls := by
  have owned : 0 < u.owners b := balanced.unit_owned_of_mem own
  cases entered with
  | call plain => exact .one (by simp [Call.Retains, plain]) _
  | openUnit made | receiveString made => exact .one (by simp [Call.Retains, made]) _
  | openIndex | readString | disposeString => exact .one (by simp [Call.Retains, Call.passage?]) _
  | ownIndex | ownUnit | disownIndex | disownUnit => exact .refl _
  | @closeIndex _ _ i last =>
    have kept : .index i ∈ .index i ::ₘ after := Multiset.mem_cons_self _ _
    have other : i.raw b ≠ (u.index b).raw b := by
      intro same
      obtain rfl := balanced.index_eq_of_raw single' (balanced.owned_of_unit owned) (balanced.owned_of_mem kept) same
      exact balanced.index_owners_ne_one owned kept last
    exact .one (by simp [Call.Retains, Call.passage?, other]) _
  | @closeUnit _ rest v last =>
    have other : v.raw b ≠ u.raw b := by
      intro same
      obtain rfl := balanced.unit_eq_of_raw single owned (balanced.unit_owned_of_mem (Multiset.mem_cons_self _ _)) same
      have counted := balanced.unit_owners v
      rw [last, Multiset.count_cons_self] at counted
      have more : .unit v ∈ rest := by simpa using own'
      have least := Multiset.count_pos.mpr more
      omega
    exact .one (by simp [Call.Retains, Call.passage?, other]) _

/-- Who owns a unit at the end has owned it all the time since it was there. -/
theorem Course.retains {before after : Books × Multiset Owner} (ran : Course before after)
    (balanced : before.1.Balanced before.2) (known : u.cell < before.1.units.length) (own : .unit u ∈ after.2)
    (apart : HandlesApart after.1.calls) :
    after.1.Balanced after.2 ∧
      AddsOnly (·.Retains (u.raw before.1) ((u.index before.1).raw before.1)) before.1.calls after.1.calls := by
  have first : .unit u ∈ before.2 := by
    by_contra none
    exact (ran.bystander known none).2 own
  have known' := before.1.known_of_owned (balanced.owned_of_unit (balanced.unit_owned_of_mem first))
  induction ran with
  | refl => exact ⟨balanced, .refl _⟩
  | @tail middle last earlier entered ih =>
    have grown := Extends.course earlier
    have own' : .unit u ∈ middle.2 := by
      by_contra none
      exact (entered.bystander (known.trans_le grown.units_length) none).2 own
    have apart' : HandlesApart middle.1.calls := apart.of_prefix (Extends.entry entered).calls
    obtain ⟨balanced', retained⟩ := ih own' apart'
    have retained' := entered.retains balanced' own' own (apart'.outstanding_le nofun) (apart'.outstanding_le nofun)
    rw [grown.unit_raw known, grown.index_raw known known'] at retained'
    exact ⟨balanced'.entry entered, retained.trans retained'⟩

end Books

/-! ## Work besides a family of slots -/

/-- A request on a graph that names no slot of a family. -/
structure Request.Outside (mine : String → Bool) (r : Request) : Prop where
  graph : r.command.OnGraph
  slots : ∀ slot ∈ r.slots, mine slot = false

/-- A request for the index of a unit in a family of slots. The index is kept elsewhere or nowhere. -/
inductive Request.Lends (mine : String → Bool) : Request → Prop
  | mk {on : String} {into : Option String} (here : mine on) (elsewhere : ∀ slot ∈ into, mine slot = false) :
      Lends mine ⟨.unitIndex on, into⟩

namespace Session

variable {σ : Type} {E : Engine σ} {load : Loading σ Unit} {mine : String → Bool} {u : TranslationUnit}
  {s after : Session σ} {first : Books × Multiset Owner}

/-- The session without the objects in the slots of a family. -/
abbrev without (mine : String → Bool) (s : Session σ) : Session σ := s.only fun slot => !mine slot

/-- Only objects in the slots of a family own the unit. -/
def Withholds (mine : String → Bool) (u : TranslationUnit) (s : Session σ) : Prop :=
  ∀ slot o, mine slot = false → s.slots.find? slot = some o → .unit u ∉ o.owners

private theorem Withholds.notMem (withheld : s.Withholds mine u) (sound : s.Sound) :
    .unit u ∉ (s.without mine).owners := by
  intro own
  obtain ⟨slot, o, present, own⟩ := (sound.only _).ordered.mem_owners_iff.mp own
  rw [Session.only, SlotMap.find?_only] at present
  split_ifs at present with other
  exact withheld slot o (by simpa using other) present own

/-- The owners in the slots of a family besides those in the others. -/
theorem balanced_without (kept : s.Kept) (mine : String → Bool) :
    s.books.Balanced ((s.without mine).owners + (s.only mine).owners) := by
  have parts := s.slots.owners_only mine
  rw [add_comm] at parts
  exact (congrArg s.books.Balanced parts).mpr kept.books.balanced

/-- What is done with the owners besides those in the slots of a family. It begins with books that differ
from those of the session in nothing but an owner of an index, and it may end with a new generation of a unit. -/
structure Aside (mine : String → Bool) (s : Session σ) (first : Books × Multiset Owner) (after : Session σ) : Prop where
  units : first.1.units = s.world.units
  calls : first.1.calls = s.world.calls
  raws : ∀ i : Index, i.raw first.1 = i.raw s.world
  balanced : first.1.Balanced (first.2 + (s.only mine).owners)
  owned : ∀ v, .unit v ∈ first.2 → .unit v ∈ (s.without mine).owners
  slots : ∀ slot, mine slot → after.slots.find? slot = s.slots.find? slot
  entered : ∃ b held, Books.Course first (b, held) ∧
    (∀ slot o, mine slot = false → after.slots.find? slot = some o → o.owners ⊆ held) ∧
    (after.books = b ∨ ∃ v, .unit v ∈ first.2 ∧ after.books = b.renew v)

namespace Aside

/-- Nothing is done. -/
theorem nothing (kept : s.Kept) (mine : String → Bool) : Aside mine s (s.books, (s.without mine).owners) s where
  units := rfl
  calls := rfl
  raws _ := rfl
  balanced := balanced_without kept mine
  owned _ := id
  slots _ _ := rfl
  entered := by
    refine ⟨_, _, .refl, fun slot o other present own member => ?_, .inl rfl⟩
    refine (kept.sound.only _).ordered.mem_owners_iff.mpr ⟨slot, o, ?_, member⟩
    rw [Session.only, SlotMap.find?_only, if_pos (by simp [other])]
    exact present

variable (aside : Aside mine s first after)

include aside

/-- The cell of the unit is left as it is, and nobody else comes to own the unit. -/
theorem bystander (kept : s.Kept) (withheld : s.Withholds mine u) (known : u.cell < s.world.units.length) :
    after.world.units[u.cell]? = s.world.units[u.cell]? ∧ after.Withholds mine u := by
  have none : .unit u ∉ first.2 := fun own => withheld.notMem kept.sound (aside.owned u own)
  obtain ⟨b, held, course, owned, books⟩ := aside.entered
  obtain ⟨cell, free⟩ := course.bystander (aside.units ▸ known) none
  refine ⟨?_, fun slot o other present own => free (owned slot o other present own)⟩
  rw [← World.books_units after.world, ← aside.units]
  rcases books with same | ⟨v, own, same⟩
  · exact (congrArg (fun b : Books => b.units[u.cell]?) same).trans cell
  · have apart : v.cell ≠ u.cell := by
      intro here
      obtain rfl : v = u := congrArg TranslationUnit.mk here
      exact none own
    refine (congrArg (fun b : Books => b.units[u.cell]?) same).trans (Eq.trans ?_ cell)
    exact List.getElem?_modify_ne _ _ apart

/-- The calls that are made spare a unit in use and its index. -/
theorem spares (kept : s.Kept) (withheld : s.Withholds mine u) (inUse : 0 < u.owners s.world)
    (apart : HandlesApart after.world.calls) :
    AddsOnly (·.Spares (u.raw s.world) ((u.index s.world).raw s.world)) s.world.calls after.world.calls := by
  have none := withheld.notMem kept.sound
  obtain ⟨b, held, course, -, books⟩ := aside.entered
  have calls : after.world.calls = b.calls := by
    rcases books with same | ⟨v, -, same⟩ <;> exact congrArg World.calls same
  have own : .unit u ∈ (s.only mine).owners := by
    have all := (balanced_without kept mine).unit_owned_iff u
    exact (Multiset.mem_add.mp (all.mp inUse)).resolve_left none
  rw [calls] at apart ⊢
  have spared := (course.spares aside.balanced own (fun own => none (aside.owned u own)) apart).2
  simp only [TranslationUnit.raw, TranslationUnit.index, aside.units, aside.calls, aside.raws] at spared
  exact spared

end Aside

/-- A request that leaves a unit owned disposes neither the unit nor its index. -/
theorem step_retains (silent : Silent load) (kept : s.Kept) (known : u.cell < s.world.units.length) {r : Request}
    (graph : r.command.OnGraph) (own : .unit u ∈ (step E load r s).2.owners)
    (apart : HandlesApart (step E load r s).2.world.calls) :
    .unit u ∈ s.owners ∧ AddsOnly (·.Retains (u.raw s.world) ((u.index s.world).raw s.world)) s.world.calls
      (step E load r s).2.world.calls := by
  obtain ⟨b, course, books⟩ := (step_stepped (E := E) silent kept.sound r graph).entered
  have calls : (step E load r s).2.world.calls = b.calls := by
    rw [← World.books_calls]
    change (step E load r s).2.books.calls = _
    rw [books]
    cases s.renewed r (step E load r s).1 <;> rfl
  rw [calls] at apart ⊢
  have first : .unit u ∈ s.owners := by
    by_contra none
    exact (course.bystander known none).2 own
  exact ⟨first, (course.retains kept.books.balanced known own apart).2⟩

/-- A request that names no slot of the family has to do with what is besides it. -/
theorem step_aside (silent : Silent load) (kept : s.Kept) {r : Request} (outside : r.Outside mine) :
    Aside mine s (s.books, (s.without mine).owners) (step E load r s).2 where
  units := rfl
  calls := rfl
  raws _ := rfl
  balanced := balanced_without kept mine
  owned _ := id
  slots slot here := by
    have keeps : KeepsTo (mine · = false) (step E load r) := step_keepsTo outside.slots
    exact keeps.find? s (by simp [here])
  entered := by
    have theirs : ∀ slot ∈ r.slots, (!mine slot) = true := fun slot member => by simp [outside.slots slot member]
    have keeps : KeepsTo _ (step E load r) := step_keepsTo theirs
    obtain ⟨world, slots⟩ := keeps.only s
    have stepped := step_stepped (E := E) silent (kept.sound.only fun slot => !mine slot) r outside.graph
    obtain ⟨b, course, books⟩ := stepped.entered
    rw [Session.books, world] at books
    refine ⟨b, _, course, fun slot o other present own member => ?_, ?_⟩
    · refine stepped.sound.ordered.mem_owners_iff.mpr ⟨slot, o, ?_, member⟩
      rw [slots, if_pos (by simp [other])]
      exact present
    · cases renewed : (s.without mine).renewed r (step E load r (s.without mine)).1 with
      | none => exact .inl (by rwa [renewed] at books)
      | some v =>
        refine .inr ⟨v, ?_, by rwa [renewed] at books⟩
        unfold Session.renewed at renewed
        split at renewed
        · obtain ⟨o, present, picked⟩ := Option.bind_eq_some_iff.mp renewed
          obtain rfl := Object.eq_of_unit? picked
          exact ((kept.sound.only _).unit present).1
        · cases renewed

/-- The session once an index has one more owner. -/
private def lent (s : Session σ) (i : Index) : Session σ := ⟨s.world.countIndex i (· + 1), s.slots⟩

private theorem step_unitIndex (on : String) (into : Option String) (s : Session σ) :
    step E load ⟨.unitIndex on, into⟩ s = match s.slots.find? on >>= Object.unit? with
      | some v => (.ok (.index ((v.index s.world).raw (s.lent (v.index s.world)).world)),
          (keep E into (.index (v.index s.world)) (s.lent (v.index s.world))).2)
      | none => (.error (.misused on), s) := by
  have held : (Job.held on Object.unit? : Job σ TranslationUnit).run s = _ := Job.held_apply on Object.unit? s
  cases picked : s.slots.find? on >>= Object.unit? with
  | none =>
    refine step_error ?_
    rw [picked] at held
    change ((Job.held on Object.unit? : Job σ TranslationUnit) >>= _ : Job σ Outcome).run s = _
    rw [ExceptT.run_bind, bind_apply, held]
    rfl
  | some v =>
    rw [picked] at held
    have counted : ((Command.unitIndex on).run E load).run s =
        (.ok (.of (.index (v.index s.world)) (s.lent (v.index s.world)).world), s.lent (v.index s.world)) := by
      change ((Job.held on Object.unit? : Job σ TranslationUnit) >>= _ : Job σ Outcome).run s = _
      rw [ExceptT.run_bind, bind_apply, held]
      rfl
    exact (step_ok counted).trans rfl

/-- The handle of the index is the answer when it is lent. -/
theorem step_lends {on : String} {into : Option String} :
    (step E load ⟨.unitIndex on, into⟩ s).1 =
      (s.slots.find? on >>= Object.unit?).elim (.error (.misused on)) fun v =>
        .ok (.index ((v.index s.world).raw s.world)) := by
  rw [step_unitIndex]
  cases s.slots.find? on >>= Object.unit? with
  | none => rfl
  | some v => exact congrArg (fun raw => Except.ok (Reply.index raw)) (World.raw_countIndex _ _ _ _)

/-- A request that lends an index has to do with what is besides the family, but for the new owner. -/
theorem lend_aside (kept : s.Kept) {r : Request} (lends : r.Lends mine) :
    ∃ first, Aside mine s first (step E load r s).2 := by
  obtain @⟨on, into, -, elsewhere⟩ := lends
  rw [step_unitIndex]
  cases picked : s.slots.find? on >>= Object.unit? with
  | none => exact ⟨_, .nothing kept mine⟩
  | some v =>
    obtain ⟨o, present, picked⟩ := Option.bind_eq_some_iff.mp picked
    obtain rfl := Object.eq_of_unit? picked
    dsimp only
    generalize lending : v.index s.world = i
    have own : .unit v ∈ (s.without mine).owners + (s.only mine).owners := by
      have own : .unit v ∈ s.slots.owners := (kept.sound.unit present).1
      rw [← s.slots.owners_only mine, add_comm] at own
      exact own
    have counted : Books.Entry (s.books, s.owners) ((s.lent i).books, .index i ::ₘ s.owners) :=
      .ownIndex (.inr ⟨v, (kept.sound.unit present).1, lending⟩)
    have sound : (s.lent i).Sound :=
      ⟨kept.sound.ordered, fun slot x there => (kept.sound.objects slot x there).mono (.entry counted)⟩
    have theirs : ∀ slot ∈ into, (!mine slot) = true := fun slot member => by simp [elsewhere slot member]
    obtain ⟨world, slots⟩ := (keep_keepsTo (E := E) theirs (.index i)).only (s.lent i)
    obtain ⟨course, sound'⟩ := keep_enters (E := E) (o := .index i) (sound.only fun slot => !mine slot)
      ⟨⟨0⟩, 0, trivial⟩ into
    unfold Session.books at course
    rw [world] at course
    refine ⟨(_, _), ⟨rfl, rfl, fun j => World.raw_countIndex _ _ _ _, ?_, fun x own => ?_, fun slot here => ?_,
      _, _, course, fun slot x other there own member => ?_, .inl rfl⟩⟩
    · have balanced := (balanced_without kept mine).ownIndex (.inr ⟨v, own, lending⟩)
      rwa [← Multiset.cons_add] at balanced
    · exact (Multiset.mem_add.mp own).resolve_left (by simp [Object.owners])
    · have keeps : KeepsTo (mine · = false) (keep E into (.index i)) := keep_keepsTo elsewhere _
      exact keeps.find? (s.lent i) (by simp [here])
    · refine sound'.ordered.mem_owners_iff.mpr ⟨slot, x, ?_, member⟩
      rw [slots, if_pos (by simp [other])]
      exact there

end Session

/-! ## What an engine keeps -/

section Engines

variable {σ : Type} {E : Engine σ} {load : Loading σ Unit} {granted : Call → Prop} {P : σ → Prop}
  {before : List Call}

/-- What an engine keeps of its state in every call that is granted. -/
structure Engine.Keeps (E : Engine σ) (granted : Call → Prop) (P : σ → Prop) : Prop where
  asked : ∀ {q e}, granted (.asked q (E.answer q e).1) → P e → P (E.answer q e).2
  walked : ∀ {c visitor e}, granted (.walked c (visitor.walk (E.children c visitor e).1)) → P e →
    P (E.children c visitor e).2

/-- A world beside itself, as long as the calls after some first ones are granted. -/
private def diagonal (granted : Call → Prop) (P : σ → Prop) (before : List Call) :
    Coupling (World σ) (World σ) where
  granted calls := ∀ new, calls = before ++ new → ∀ call ∈ new, granted call
  closed := by
    rintro earlier _ ⟨rest, rfl⟩ all new rfl call member
    exact all (new ++ rest) (List.append_assoc _ _ _) call (List.mem_append_left _ member)
  rel w v := w = v ∧ before <+: w.calls ∧ P w.engine

private theorem diagonal_call {α : Type} {work : Action σ α} (call : World σ → Call)
    (made : ∀ w, (work w).2.calls = w.calls ++ [call w])
    (kept : ∀ w, granted (call w) → P w.engine → P (work w).2.engine) :
    Alike (diagonal granted P before) work work where
  grows w := ⟨_, (made w).symm⟩
  grows' w := ⟨_, (made w).symm⟩
  same {w _} := by
    rintro ⟨rfl, ⟨new, calls⟩, holds⟩ all -
    have more : (work w).2.calls = before ++ (new ++ [call w]) := by rw [made, ← List.append_assoc, calls]
    refine ⟨rfl, rfl, ⟨_, more.symm⟩, kept w (all _ more _ ?_) holds⟩
    exact List.mem_append_right _ (List.mem_singleton_self _)

private theorem diagonal_quiet {α : Type} {work : Action σ α} (quiet : ∀ w, (work w).2.calls = w.calls)
    (kept : ∀ w, P w.engine → P (work w).2.engine) : Alike (diagonal granted P before) work work :=
  .quiet quiet quiet fun {w _} coupled => by
    obtain ⟨rfl, begins, holds⟩ := coupled
    exact ⟨rfl, rfl, (quiet w).symm ▸ begins, kept w holds⟩

private theorem diagonal_lockstep (keeps : E.Keeps granted P) (inhabited : Nonempty σ) :
    Lockstep E E (fun _ => True) (diagonal granted P before) := by
  have asking (q : Query) : Alike (diagonal granted P before) (ask E q) (ask E q) :=
    diagonal_call (fun w => .asked q (E.answer q w.engine).1) (fun _ => rfl) fun _ => keeps.asked
  have taking (s : StringHandle) :
      Alike (diagonal granted P before) (takeOptionalString E s) (takeOptionalString E s) :=
    .ite _ (.pure none) ((asking _).bind fun text => (asking _).bind fun _ => .pure text)
  exact {
    inhabited := inhabited
    inhabited' := inhabited
    cells := fun coupled => coupled.1 ▸ ⟨rfl, rfl⟩
    fits_nil := trivial
    asking := fun q _ _ => asking q
    copying := fun source => by cases source <;> exact (asking _).bind taking
    walking := fun c visitor => diagonal_call (fun w => .walked c (visitor.walk (E.children c visitor w.engine).1))
      (fun _ => rfl) fun _ => keeps.walked
    reporting := fun e => diagonal_quiet (fun _ => rfl) fun _ => id
    indexes := fun change coupled => ⟨coupled.1 ▸ rfl, coupled.2⟩
    units := fun change _ coupled => ⟨coupled.1 ▸ rfl, coupled.2⟩ }

private theorem diagonal_letGo (keeps : E.Keeps granted P) (inhabited : Nonempty σ) (u : TranslationUnit) :
    Alike (diagonal granted P before) (u.drop E) (u.drop E) := by
  have lockstep : Lockstep E E (fun _ => True) (diagonal granted P before) := diagonal_lockstep keeps inhabited
  refine Alike.get (V := Eq) (fun coupled => coupled.1) (fun s => ⟨s, rfl⟩) (fun t => ⟨t, rfl⟩) ?_
  rintro w _ rfl
  refine (lockstep.update_unit u (fun cell => { cell with owners := cell.owners - 1 }) fun _ _ same => same).bind ?_
  refine fun _ => Alike.ite (u.owners w = 1) ?_ (.pure ())
  refine (lockstep.reporting _).bind fun _ => (lockstep.asking _ rfl trivial).bind fun _ => ?_
  exact lockstep.drop_index _

/-- Whatever all calls of a request keep of an engine, the request keeps. -/
theorem Session.step_keeps (keeps : E.Keeps granted P) (silent : Silent load)
    (loads : ∀ w, P w.engine → P (load.run w).2.engine) {s : Session σ} {r : Request} (graph : r.command.OnGraph)
    {new : List Call} (calls : (step E load r s).2.world.calls = s.world.calls ++ new)
    (all : ∀ call ∈ new, granted call) (holds : P s.world.engine) : P (step E load r s).2.world.engine := by
  have inhabited : Nonempty σ := ⟨s.world.engine⟩
  have lockstep : Lockstep E E (fun _ => True) (diagonal granted P s.world.calls) := diagonal_lockstep keeps inhabited
  have loading : Alike (diagonal granted P s.world.calls) load.run load.run :=
    diagonal_quiet (fun w => congrArg (fun b : Books => b.calls) (silent w)) loads
  have fit : r.command.Fits fun _ => True := by
    unfold Command.Fits ListsFit
    split <;> simp
  have alike := lockstep.request (diagonal_letGo keeps inhabited) loading graph fit
  have granted' : (diagonal granted P s.world.calls).granted (step E load r s).2.world.calls := by
    intro more split
    obtain rfl := List.append_cancel_left (calls.symm.trans split)
    exact all
  exact (alike.same ⟨⟨rfl, List.prefix_rfl, holds⟩, rfl⟩ granted' granted').2.1.2.2

end Engines

end HandleGraph
