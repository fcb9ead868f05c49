import HandleGraph.Handle.Slots
import HandleGraph.Proofs.SlotOrder
import Mathlib.Algebra.BigOperators.Group.List.Basic
import Mathlib.Algebra.Order.Group.Multiset
import Mathlib.Tactic.Abel

/-! # Conservation of owned handles

What owners take up they dispose, give out or still hold, each handle as often as it was taken up and
always under the disposer it came with. One exchange law for a slot, new and replaced holding against
old and added, says what every step does to the sum; a run adds the steps up.
-/

namespace HandleGraph.Owned

variable {H D : Type} [NullHandle H]

/-- What an owner holds, under its disposer. A null handle counts for nothing. -/
def holding (o : Owned H D) : Multiset (Disposal H D) := if o.isNull then 0 else {⟨o.disposer, o.raw⟩}

def holdings (slots : SlotMap (Owned H D)) : Multiset (Disposal H D) := (slots.values.map holding).sum

def holdingAt (slots : SlotMap (Owned H D)) (name : String) : Multiset (Disposal H D) :=
  (slots.find? name).elim 0 holding

/-! ## Disposals and holdings -/

private theorem coe_disposals (o : Owned H D) : (o.disposals : Multiset (Disposal H D)) = o.holding := by
  unfold disposals holding
  split <;> rfl

@[simp] theorem coe_drop (o : Owned H D) : (o.drop : Multiset (Disposal H D)) = o.holding :=
  o.coe_disposals

@[simp] theorem coe_dropSlot (slots : SlotMap (Owned H D)) (name : String) :
    (dropSlot slots name : Multiset (Disposal H D)) = holdingAt slots name := by
  unfold dropSlot holdingAt
  cases slots.find? name with
  | none => rfl
  | some o => exact o.coe_drop

/-- Dropping every owner disposes what all of them hold. -/
theorem coe_dropAll (slots : SlotMap (Owned H D)) :
    (dropAll slots : Multiset (Disposal H D)) = holdings slots := by
  unfold dropAll holdings
  induction slots.values with
  | nil => rfl
  | cons o rest ih =>
    rw [List.flatMap_cons, ← Multiset.coe_add, coe_drop, ih, List.map_cons, List.sum_cons]

@[simp] theorem holding_empty (disposer : D) : (empty disposer : Owned H D).holding = 0 :=
  if_pos NullHandle.isNull_null

/-- What an owner gives up to its disposer is not null. -/
theorem not_isNull_of_mem_drop {o : Owned H D} {d : Disposal H D} (disposed : d ∈ o.drop) :
    NullHandle.isNull d.raw = false := by
  change d ∈ o.disposals at disposed
  unfold disposals at disposed
  split at disposed
  · cases disposed
  · next valid =>
    rw [List.mem_singleton.mp disposed]
    exact Bool.eq_false_iff.mpr valid

private theorem not_isNull_of_mem_dropSlot {slots : SlotMap (Owned H D)} {name : String} {d : Disposal H D}
    (disposed : d ∈ dropSlot slots name) : NullHandle.isNull d.raw = false := by
  unfold dropSlot at disposed
  cases present : slots.find? name with
  | none => rw [present] at disposed; cases disposed
  | some o => rw [present] at disposed; exact not_isNull_of_mem_drop disposed

private theorem not_isNull_of_mem_dropAll {slots : SlotMap (Owned H D)} {d : Disposal H D}
    (disposed : d ∈ dropAll slots) : NullHandle.isNull d.raw = false := by
  obtain ⟨o, -, given⟩ := List.mem_flatMap.mp disposed
  exact not_isNull_of_mem_drop given

/-! ## The exchange law -/

section Exchange

variable {slots : SlotMap (Owned H D)} (ordered : slots.Ordered)

include ordered

private theorem holdings_split (name : String) :
    holdings slots = holdingAt slots name + holdings (slots.erase name) := by
  unfold holdingAt
  cases present : slots.find? name with
  | none => rw [SlotMap.erase_of_find?_none present, Option.elim_none, zero_add]
  | some o => exact ((ordered.values_erase present).map holding).sum_eq

/-- A slot filled anew: what is held now and what was replaced are what was held and what was added. -/
theorem holdings_insert (name : String) (o : Owned H D) :
    holdings (slots.insert name o) + holdingAt slots name = o.holding + holdings slots := by
  have filled : holdings (slots.insert name o) = o.holding + holdings (slots.erase name) :=
    ((ordered.values_insert name o).map holding).sum_eq
  rw [filled, holdings_split ordered name]
  abel

private theorem holdings_erase (name : String) :
    holdings (slots.erase name) + holdingAt slots name = holdings slots := by
  rw [holdings_split ordered name, add_comm]

end Exchange

/-! ## What one step moves -/

/-- The handles that a step puts into owners, each under the disposer of its owner. -/
def Step.adopted (slots : SlotMap (Owned H D)) : Step H D → Multiset (Disposal H D)
  | .adopt _ raw disposer => holding ⟨raw, disposer⟩
  | .reset on raw => (slots.find? on).elim 0 fun o => holding ⟨raw, o.disposer⟩
  | _ => 0

/-- The handles that a step gives out undisposed, each under the disposer that would have had it. -/
def Step.released (slots : SlotMap (Owned H D)) : Step H D → Multiset (Disposal H D)
  | .release on => (slots.find? on).elim 0 fun o => holding ⟨o.release.1, o.disposer⟩
  | _ => 0

/-- Whether the disposers are called by owners only, and not directly. -/
def Step.byOwners : Step H D → Bool
  | .disposeWith _ _ => false
  | _ => true

/-- One step gives up what it takes in, or it is still held. -/
structure Conserves (slots : SlotMap (Owned H D)) (s : Step H D) (after : Outcome H D) : Prop where
  ordered : after.slots.Ordered
  moved : holdings after.slots + (after.disposed + s.released slots) = s.adopted slots + holdings slots
  valid : ∀ d ∈ after.disposed, NullHandle.isNull d.raw = false

section Steps

variable {slots : SlotMap (Owned H D)} (ordered : slots.Ordered)

include ordered

/-- A step that stores an owner takes in what the owner brings. -/
private theorem conserves_store {s : Step H D} {o : Owned H D} (name : String)
    (adopted : s.adopted slots = o.holding) (released : s.released slots = 0) :
    Conserves slots s (store slots name o) where
  ordered := ordered.insert name o
  moved := by
    rw [adopted, released, add_zero, ← holdings_insert ordered name o]
    exact congrArg _ (coe_dropSlot slots name)
  valid _ disposed := not_isNull_of_mem_dropSlot disposed

/-- A step that only looks conserves everything. -/
private theorem conserves_still {s : Step H D} (reply : Reply H D) (adopted : s.adopted slots = 0)
    (released : s.released slots = 0) : Conserves slots s ⟨reply, slots, []⟩ where
  ordered := ordered
  moved := by
    rw [adopted, released, zero_add, add_zero]
    exact add_zero _
  valid _ disposed := nomatch disposed

/-- A step on a slot conserves everything if it does where there is an owner. -/
private theorem conserves_onSlot {s : Step H D} {name : String} {work : Owned H D → Outcome H D}
    (here : ∀ o, slots.find? name = some o → Conserves slots s (work o))
    (adopted : slots.find? name = none → s.adopted slots = 0)
    (released : slots.find? name = none → s.released slots = 0) :
    Conserves slots s (onSlot slots name work) := by
  unfold onSlot
  cases present : slots.find? name with
  | none => exact conserves_still ordered _ (adopted present) (released present)
  | some o => exact here o present

/-- An owner that is taken leaves its slot empty, and the new owner is stored where it holds as much. -/
private theorem conserves_take {on source : String} {o : Owned H D} (present : slots.find? source = some o) :
    Conserves slots (.take on source) (store (slots.insert source o.take.2) on o.take.1) := by
  have left : holdings (slots.insert source o.take.2) + o.holding = holdings slots := by
    have exchange := holdings_insert ordered source o.take.2
    rw [holdingAt, present, Option.elim_some] at exchange
    rw [exchange, take, release, holding_empty, zero_add]
  have stored := holdings_insert (ordered.insert source o.take.2) on o.take.1
  refine ⟨(ordered.insert source _).insert on _, ?_, fun _ disposed => not_isNull_of_mem_dropSlot disposed⟩
  calc holdings ((slots.insert source o.take.2).insert on o.take.1) +
        (dropSlot (slots.insert source o.take.2) on + (0 : Multiset (Disposal H D)))
      = o.holding + holdings (slots.insert source o.take.2) := by rw [add_zero, coe_dropSlot, stored]; rfl
    _ = 0 + holdings slots := by rw [add_comm, left, zero_add]

/-- Two owners that change places hold the same as before, also when they are one. -/
private theorem conserves_swap {on other : String} {a b : Owned H D} (first : slots.find? on = some a)
    (second : slots.find? other = some b) :
    Conserves slots (.swap on other) ⟨.done, (slots.insert on b).insert other a, []⟩ := by
  have there : holdingAt (slots.insert on b) other = b.holding := by
    rw [holdingAt, SlotMap.find?_insert]
    split_ifs
    · rfl
    · rw [second, Option.elim_some]
  have one := holdings_insert ordered on b
  have two := holdings_insert (ordered.insert on b) other a
  rw [holdingAt, first, Option.elim_some] at one
  rw [there] at two
  refine ⟨(ordered.insert on b).insert other a, ?_, fun _ disposed => nomatch disposed⟩
  change holdings ((slots.insert on b).insert other a) + (0 + 0) = 0 + holdings slots
  refine add_right_cancel (b := b.holding + a.holding) ?_
  calc holdings ((slots.insert on b).insert other a) + (0 + 0) + (b.holding + a.holding)
      = holdings ((slots.insert on b).insert other a) + b.holding + a.holding := by abel
    _ = a.holding + (holdings (slots.insert on b) + a.holding) := by rw [two]; abel
    _ = 0 + holdings slots + (b.holding + a.holding) := by rw [one]; abel

/-- An owner that takes up another handle in its slot gives up the one it had. -/
private theorem conserves_refill {s : Step H D} {name : String} {o after : Owned H D} {reply : Reply H D}
    {disposed : List (Disposal H D)} (present : slots.find? name = some o)
    (adopted : s.adopted slots = after.holding) (given : disposed + s.released slots = o.holding)
    (valid : ∀ d ∈ disposed, NullHandle.isNull d.raw = false) :
    Conserves slots s ⟨reply, slots.insert name after, disposed⟩ := by
  have exchange := holdings_insert ordered name after
  rw [holdingAt, present, Option.elim_some] at exchange
  exact ⟨ordered.insert name after, by rw [given, exchange, adopted], valid⟩

/-- Every step of owners conserves what they hold. -/
theorem step_conserves {s : Step H D} (own : s.byOwners) : Conserves slots s (step slots s) := by
  cases s with
  | adopt on raw disposer => exact conserves_store ordered on rfl rfl
  | empty on disposer => exact conserves_store ordered on (holding_empty disposer).symm rfl
  | take on source =>
    exact conserves_onSlot ordered (fun _ present => conserves_take ordered present) (fun _ => rfl)
      fun _ => rfl
  | swap on other =>
    refine conserves_onSlot ordered (fun a first => ?_) (fun _ => rfl) fun _ => rfl
    exact conserves_onSlot ordered (fun _ second => conserves_swap ordered first second) (fun _ => rfl)
      fun _ => rfl
  | drop on =>
    refine ⟨ordered.erase on, ?_, fun _ disposed => not_isNull_of_mem_dropSlot disposed⟩
    calc holdings (slots.erase on) + (dropSlot slots on + (0 : Multiset (Disposal H D)))
        = holdings (slots.erase on) + holdingAt slots on := by rw [add_zero, coe_dropSlot]
      _ = 0 + holdings slots := by rw [holdings_erase ordered, zero_add]
  | release on =>
    refine conserves_onSlot ordered (fun o present => ?_) (fun _ => rfl) fun absent => by
      rw [Step.released, absent, Option.elim_none]
    refine conserves_refill ordered present (holding_empty o.disposer).symm ?_ fun _ given => nomatch given
    rw [Step.released, present, Option.elim_some]
    exact zero_add _
  | reset on raw =>
    refine conserves_onSlot ordered (fun o present => ?_) (fun absent => by
      rw [Step.adopted, absent, Option.elim_none]) fun _ => rfl
    refine conserves_refill ordered present ?_ ?_ fun _ given => not_isNull_of_mem_drop given
    · rw [Step.adopted, present, Option.elim_some]; rfl
    · exact (add_zero _).trans o.coe_disposals
  | clear on =>
    refine conserves_onSlot ordered (fun o present => ?_) (fun _ => rfl) fun _ => rfl
    refine conserves_refill ordered present (holding_empty o.disposer).symm ?_ fun _ given =>
      not_isNull_of_mem_drop given
    exact (add_zero _).trans o.coe_disposals
  | disposeWith on raw => cases own
  | get on | validity on | describe on =>
    exact conserves_onSlot ordered (fun _ _ => conserves_still ordered _ rfl rfl) (fun _ => rfl) fun _ => rfl

end Steps

/-! ## Runs -/

def slotsAfter (slots : SlotMap (Owned H D)) (steps : List (Step H D)) : SlotMap (Owned H D) :=
  steps.foldl (fun held s => (step held s).slots) slots

/-- The handles that the steps of a run put into owners. -/
def adoptedBy (slots : SlotMap (Owned H D)) : List (Step H D) → Multiset (Disposal H D)
  | [] => 0
  | s :: rest => s.adopted slots + adoptedBy (step slots s).slots rest

/-- The handles that the steps of a run give out undisposed. -/
def releasedBy (slots : SlotMap (Owned H D)) : List (Step H D) → Multiset (Disposal H D)
  | [] => 0
  | s :: rest => s.released slots + releasedBy (step slots s).slots rest

/-- The disposals that the steps of a run make, in order. -/
def disposedBy (slots : SlotMap (Owned H D)) (steps : List (Step H D)) : List (Disposal H D) :=
  (run slots steps).1.flatMap (·.disposed)

private theorem disposedBy_cons (slots : SlotMap (Owned H D)) (s : Step H D) (rest : List (Step H D)) :
    disposedBy slots (s :: rest) = (step slots s).disposed ++ disposedBy (step slots s).slots rest := rfl

/-- The last disposals of a run are those of the owners that its steps leave. -/
theorem run_last (slots : SlotMap (Owned H D)) (steps : List (Step H D)) :
    (run slots steps).2 = dropAll (slotsAfter slots steps) := by
  induction steps generalizing slots with
  | nil => rfl
  | cons s rest ih => exact ih (step slots s).slots

private theorem run_conserves {slots : SlotMap (Owned H D)} (ordered : slots.Ordered) {steps : List (Step H D)}
    (own : ∀ s ∈ steps, s.byOwners) :
    holdings (slotsAfter slots steps) + (disposedBy slots steps + releasedBy slots steps) =
      adoptedBy slots steps + holdings slots := by
  induction steps generalizing slots with
  | nil => exact (congrArg _ (add_zero _)).trans ((add_zero _).trans (zero_add _).symm)
  | cons s rest ih =>
    have now := step_conserves ordered (own s List.mem_cons_self)
    have later := ih now.ordered fun s member => own s (List.mem_cons_of_mem _ member)
    rw [disposedBy_cons, ← Multiset.coe_add, releasedBy, adoptedBy]
    calc holdings (slotsAfter (step slots s).slots rest) +
          ((step slots s).disposed + disposedBy (step slots s).slots rest +
            (s.released slots + releasedBy (step slots s).slots rest))
        = holdings (slotsAfter (step slots s).slots rest) +
            (disposedBy (step slots s).slots rest + releasedBy (step slots s).slots rest) +
            ((step slots s).disposed + s.released slots) := by abel
      _ = adoptedBy (step slots s).slots rest +
            (holdings (step slots s).slots + ((step slots s).disposed + s.released slots)) := by
          rw [later, add_assoc]
      _ = s.adopted slots + adoptedBy (step slots s).slots rest + holdings slots := by
          rw [now.moved]; abel

private theorem not_isNull_of_mem_disposedBy {slots : SlotMap (Owned H D)} (ordered : slots.Ordered)
    {steps : List (Step H D)} (own : ∀ s ∈ steps, s.byOwners) {d : Disposal H D}
    (disposed : d ∈ disposedBy slots steps) : NullHandle.isNull d.raw = false := by
  induction steps generalizing slots with
  | nil => cases disposed
  | cons s rest ih =>
    have now := step_conserves ordered (own s List.mem_cons_self)
    rcases List.mem_append.mp disposed with here | later
    · exact now.valid d here
    · exact ih now.ordered (fun s member => own s (List.mem_cons_of_mem _ member)) later

/-- A handle counts once for each time it was taken up: it was disposed under the disposer of the owner
that took it up, it was given out, or it is still held there. No null handle is ever disposed, and when
the last owners are gone nothing is held. -/
theorem adopted_disposed_or_released {steps : List (Step H D)} (own : ∀ s ∈ steps, s.byOwners) :
    adoptedBy .empty steps = disposedBy .empty steps + releasedBy .empty steps +
        holdings (slotsAfter .empty steps) ∧
      (∀ d ∈ disposedBy .empty steps ++ (run .empty steps).2, NullHandle.isNull d.raw = false) ∧
      adoptedBy .empty steps = ↑(disposedBy .empty steps ++ (run .empty steps).2) +
        releasedBy .empty steps := by
  have kept : adoptedBy .empty steps = disposedBy .empty steps + releasedBy .empty steps +
      holdings (slotsAfter .empty steps) := by
    have conserved := run_conserves SlotMap.ordered_empty own
    rw [add_comm]
    exact (conserved.trans (add_zero _)).symm
  refine ⟨kept, fun d disposed => ?_, ?_⟩
  · rcases List.mem_append.mp disposed with before | last
    · exact not_isNull_of_mem_disposedBy SlotMap.ordered_empty own before
    · exact not_isNull_of_mem_dropAll (run_last .empty steps ▸ last)
  · rw [← Multiset.coe_add, run_last, coe_dropAll, kept]
    abel

/-- Steps that could lose a handle: an owner is taken into its own slot and swapped with an empty one,
takes up a null handle that is not the sentinel, and is stored over. -/
def sampleSteps : List (Step StringHandle String) :=
  [.adopt "a" ⟨8, 0⟩ "first", .take "a" "a", .empty "b" "second", .swap "a" "b", .reset "b" ⟨0, 5⟩,
    .reset "b" ⟨9, 1⟩, .adopt "b" ⟨10, 0⟩ "third", .take "c" "b", .release "c", .reset "a" ⟨11, 0⟩]

theorem adopted_disposed_or_released_sample :
    (∀ s ∈ sampleSteps, s.byOwners) ∧
      disposedBy .empty sampleSteps = [⟨"first", ⟨8, 0⟩⟩, ⟨"first", ⟨9, 1⟩⟩] ∧
      (run .empty sampleSteps).2 = [⟨"second", ⟨11, 0⟩⟩] ∧
      releasedBy .empty sampleSteps = {⟨"third", ⟨10, 0⟩⟩} ∧
      adoptedBy .empty sampleSteps = disposedBy .empty sampleSteps + releasedBy .empty sampleSteps +
        holdings (slotsAfter .empty sampleSteps) ∧
      adoptedBy .empty sampleSteps = ↑(disposedBy .empty sampleSteps ++ (run .empty sampleSteps).2) +
        releasedBy .empty sampleSteps := by
  have own : ∀ s ∈ sampleSteps, s.byOwners := by decide
  obtain ⟨conserved, -, finished⟩ := adopted_disposed_or_released own
  exact ⟨own, by decide +kernel, by decide +kernel, by decide +kernel, conserved, finished⟩

end HandleGraph.Owned
