import HandleGraph.Proofs.Disposal

/-! # No call on a null or disposed handle

Whatever is requested, and whenever objects are let go of, every call of the engine receives handles that
are not null. Indexes and units are in use at that moment, and so is the unit that a file or a cursor
belongs to. Only one of two compared cursors may be the null cursor.
-/

namespace HandleGraph

/-- The cursors that a call hands out, each with the unit of the handle that was asked. -/
def Call.cursors (unitOf : CursorHandle → UnitHandle) : Call → List (CursorHandle × UnitHandle)
  | .asked (.rootCursor unit) (c : CursorHandle) => [(c, unit)]
  | .asked (.link _ source) (c : CursorHandle) => [(c, unitOf source)]
  | .asked (.argument source _) (c : CursorHandle) => [(c, unitOf source)]
  | .walked source walk => walk.shown.map fun c => (c, unitOf source)
  | _ => []

/-- The files that a call hands out, each with the unit that was asked. -/
def Call.files : Call → List (FileHandle × UnitHandle)
  | .asked (.getFile unit _) (file : FileHandle) => [(file, unit)]
  | _ => []

/-- What an engine hands out belongs to the unit that it is asked of, directly or through a cursor. -/
structure Belonging (unitOf : CursorHandle → UnitHandle) (fileUnit : FileHandle → UnitHandle)
    (calls : List Call) : Prop where
  cursors : ∀ call ∈ calls, ∀ got ∈ call.cursors unitOf, got.1.isNull = false → unitOf got.1 = got.2
  files : ∀ call ∈ calls, ∀ got ∈ call.files, got.1.isNull = false → fileUnit got.1 = got.2

/-- The handles that a call may receive after other calls. -/
def liveHandles (unitOf : CursorHandle → UnitHandle) (fileUnit : FileHandle → UnitHandle)
    (before : List Call) : HandleLaw where
  index raw := raw.isNull = false ∧ IndexInUse before raw
  unit raw := raw.isNull = false ∧ UnitInUse before raw
  file raw := raw.isNull = false ∧ UnitInUse before (fileUnit raw)
  string raw := raw.isNull = false
  cursor raw := raw.isNull = false ∧ UnitInUse before (unitOf raw)

variable {σ : Type} {E : Engine σ} {load : Loading σ Unit} {unitOf : CursorHandle → UnitHandle}
  {fileUnit : FileHandle → UnitHandle} {calls : List Call}

/-- No null handle counts as made. -/
theorem valid_of_indexMade {raw : IndexHandle} (made : .indexMade raw ∈ ledger calls) :
    raw.isNull = false := by
  obtain ⟨call, -, passed⟩ := List.mem_filterMap.mp made
  cases call with
  | walked c walk => cases passed
  | asked q answer =>
    cases q <;> simp only [Call.passage?, Option.ite_none_left_eq_some, Option.some.injEq, reduceCtorEq,
      and_false, Passage.indexMade.injEq] at passed
    obtain ⟨valid, rfl⟩ := passed
    exact Bool.eq_false_iff.mpr valid

private theorem valid_of_unitMade {raw : UnitHandle} {source : IndexHandle}
    (made : .unitMade raw source ∈ ledger calls) : raw.isNull = false := by
  obtain ⟨call, -, passed⟩ := List.mem_filterMap.mp made
  cases call with
  | walked c walk => cases passed
  | asked q answer =>
    cases q <;> simp only [Call.passage?, Option.ite_none_left_eq_some, Option.some.injEq, reduceCtorEq,
      and_false, Passage.unitMade.injEq] at passed
    all_goals
      obtain ⟨valid, rfl, -⟩ := passed
      exact Bool.eq_false_iff.mpr valid

namespace Belonging

/-- A cursor that was got from a unit belongs to it, as long as no null cursor is asked. -/
theorem unitOf_eq (belonging : Belonging unitOf fileUnit calls)
    (lawful : Throughout (fun before call => call.Obeys (inUse before)) calls) {unit : UnitHandle}
    {c : CursorHandle} (source : CursorOf calls unit c) (valid : c.isNull = false) : unitOf c = unit := by
  have obeyed {call : Call} (member : call ∈ calls) : ∃ before, call.Obeys (inUse before) := by
    obtain ⟨before, after, split⟩ := List.append_of_mem member
    exact ⟨before, lawful before call after split⟩
  induction source with
  | root asked => exact belonging.cursors _ asked _ List.mem_cons_self valid
  | link _ asked ih =>
    obtain ⟨before, law⟩ := obeyed asked
    exact (belonging.cursors _ asked _ List.mem_cons_self valid).trans (ih law.1)
  | argument _ asked ih =>
    obtain ⟨before, law⟩ := obeyed asked
    exact (belonging.cursors _ asked _ List.mem_cons_self valid).trans (ih law.1)
  | child _ walked shown ih =>
    obtain ⟨before, law⟩ := obeyed walked
    exact (belonging.cursors _ walked _ (List.mem_map_of_mem shown) valid).trans (ih law.1)

private theorem fileUnit_eq (belonging : Belonging unitOf fileUnit calls) {unit : UnitHandle} {file : FileHandle}
    (source : FileOf calls unit file) (valid : file.isNull = false) : fileUnit file = unit := by
  obtain ⟨path, asked⟩ := source
  exact belonging.files _ asked _ List.mem_cons_self valid

/-- What is in use is live, going by what cursors and files belong to. -/
theorem inUse_implies (belonging : Belonging unitOf fileUnit calls)
    (lawful : Throughout (fun before call => call.Obeys (inUse before)) calls) {before : List Call}
    (subset : before ⊆ calls) : (inUse before).Implies (liveHandles unitOf fileUnit before) where
  index := fun used => ⟨valid_of_indexMade used.1, used⟩
  unit := fun used => by
    obtain ⟨source, made⟩ := used.1
    exact ⟨valid_of_unitMade made, used⟩
  file := fun ⟨valid, unit, source, used⟩ =>
    ⟨valid, belonging.fileUnit_eq (source.mono subset) valid ▸ used⟩
  string := id
  cursor := fun ⟨valid, unit, source, used⟩ =>
    ⟨valid, belonging.unitOf_eq lawful (source.mono subset) valid ▸ used⟩

end Belonging

namespace Session

/-- Every call from the start to the end of a session receives live handles only. -/
theorem calls_on_live_handles (silent : Silent load) (engine : σ) (requests : List Request)
    (graph : ∀ r ∈ requests, r.command.OnGraph)
    (fresh : FreshHandles (ended E load engine requests).world.calls)
    (belonging : Belonging unitOf fileUnit (ended E load engine requests).world.calls) :
    Throughout (fun before call => call.Obeys (liveHandles unitOf fileUnit before))
      (ended E load engine requests).world.calls := by
  have kept : (ended E load engine requests).Kept := (Kept.after silent engine graph).close
  have lawful : Throughout (fun before call => call.Obeys (inUse before))
      (ended E load engine requests).world.calls := fun before call later split =>
    (kept.books.orderly before call later split (fresh.of_split split)).obeys
  intro before call later split
  refine (lawful before call later split).mono (belonging.inUse_implies lawful ?_)
  rw [split]
  exact List.subset_append_left _ _

theorem calls_on_live_handles_sample :
    Belonging (fun c => ⟨c.data0⟩) (fun _ => ⟨2⟩)
        (ended Script.engine (pure ()) Sample.script Sample.requests).world.calls ∧
      Throughout (fun before call => call.Obeys (liveHandles (fun c => ⟨c.data0⟩) (fun _ => ⟨2⟩) before))
        (ended Script.engine (pure ()) Sample.script Sample.requests).world.calls := by
  have fresh : FreshHandles (ended Script.engine (pure ()) Sample.script Sample.requests).world.calls :=
    ⟨by decide +kernel, by decide +kernel⟩
  have belonging : Belonging (fun c => ⟨c.data0⟩) (fun _ => ⟨2⟩)
      (ended Script.engine (pure ()) Sample.script Sample.requests).world.calls :=
    ⟨by decide +kernel, by decide +kernel⟩
  exact ⟨belonging, calls_on_live_handles silent_pure Sample.script Sample.requests Sample.requests_onGraph
    fresh belonging⟩

end Session

end HandleGraph
