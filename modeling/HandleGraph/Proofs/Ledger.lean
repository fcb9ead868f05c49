import HandleGraph.Engine.Basic

/-! # The ledger of a graph's calls

What the calls of an engine say about the handles that pass between it and a graph: which were made,
which were disposed, which cursors and files come from which unit. Nothing here looks at the cells of
a graph; a ledger is read off the calls alone.
-/

namespace HandleGraph

/-- A handle that passes between an engine and a graph in one call. -/
inductive Passage where
  | indexMade (index : IndexHandle)
  | indexDisposed (index : IndexHandle)
  | unitMade (unit : UnitHandle) (source : IndexHandle)
  | unitDisposed (unit : UnitHandle)
  | stringMade (s : StringHandle)
  | stringRead (s : StringHandle)
  | stringDisposed (s : StringHandle)
deriving DecidableEq

/-- What passes in a call. A null answer passes nothing. -/
def Call.passage? : Call → Option Passage
  | .asked (.createIndex _) (index : IndexHandle) => if index.isNull then none else some (.indexMade index)
  | .asked (.disposeIndex index) _ => some (.indexDisposed index)
  | .asked (.parse source ..) (unit : UnitHandle) => if unit.isNull then none else some (.unitMade unit source)
  | .asked (.load source _) (unit : UnitHandle) => if unit.isNull then none else some (.unitMade unit source)
  | .asked (.disposeUnit unit) _ => some (.unitDisposed unit)
  | .asked (.unitSpelling _) (s : StringHandle) => if s.isNull then none else some (.stringMade s)
  | .asked (.fileName _) (s : StringHandle) => if s.isNull then none else some (.stringMade s)
  | .asked (.text ..) (s : StringHandle) => if s.isNull then none else some (.stringMade s)
  | .asked (.readString s) _ => some (.stringRead s)
  | .asked (.disposeString s) _ => some (.stringDisposed s)
  | _ => none

/-- Everything that passed in a list of calls, in order. -/
def ledger (calls : List Call) : List Passage := calls.filterMap Call.passage?

/-- A ledger goes on where the calls go on. -/
theorem ledger_append (calls more : List Call) :
    ledger (calls ++ more) = ledger calls ++ ledger more :=
  List.filterMap_append

theorem ledger_concat (calls : List Call) (call : Call) :
    ledger (calls ++ [call]) = ledger calls ++ call.passage?.toList := by
  cases passed : call.passage? <;> simp [ledger, passed]

theorem ledger_cons (call : Call) (calls : List Call) :
    ledger (call :: calls) = call.passage?.toList ++ ledger calls := by
  cases passed : call.passage? <;> simp [ledger, passed]

def Passage.madeIndex? : Passage → Option IndexHandle
  | .indexMade index => some index
  | _ => none

/-- The unit that a passage makes, with the index it is made from. -/
def Passage.madeUnit? : Passage → Option (UnitHandle × IndexHandle)
  | .unitMade unit source => some (unit, source)
  | _ => none

def madeIndexes (calls : List Call) : List IndexHandle := (ledger calls).filterMap Passage.madeIndex?

/-- The units made by calls, in order, each with the index it was made from. -/
def madeUnits (calls : List Call) : List (UnitHandle × IndexHandle) :=
  (ledger calls).filterMap Passage.madeUnit?

theorem madeIndexes_concat (calls : List Call) (call : Call) :
    madeIndexes (calls ++ [call]) = madeIndexes calls ++ (call.passage?.bind Passage.madeIndex?).toList := by
  rw [madeIndexes, ledger_concat, List.filterMap_append]
  cases call.passage? with
  | none => rfl
  | some p => cases made : p.madeIndex? <;> simp [madeIndexes, made]

theorem madeUnits_concat (calls : List Call) (call : Call) :
    madeUnits (calls ++ [call]) = madeUnits calls ++ (call.passage?.bind Passage.madeUnit?).toList := by
  rw [madeUnits, ledger_concat, List.filterMap_append]
  cases call.passage? with
  | none => rfl
  | some p => cases made : p.madeUnit? <;> simp [madeUnits, made]

/-- Only a call with this very passage counts. -/
theorem count_ledger_concat (calls : List Call) (call : Call) (p : Passage) :
    (ledger (calls ++ [call])).count p =
      (ledger calls).count p + if call.passage? = some p then 1 else 0 := by
  rw [ledger_concat, List.count_append]
  cases call.passage? with
  | none => rfl
  | some q => simp [List.count_singleton]

theorem mem_madeIndexes {calls : List Call} {index : IndexHandle} :
    index ∈ madeIndexes calls ↔ .indexMade index ∈ ledger calls := by
  rw [madeIndexes, List.mem_filterMap]
  constructor
  · rintro ⟨passage, member, made⟩
    cases passage <;> cases made
    exact member
  · intro member
    exact ⟨_, member, rfl⟩

theorem mem_madeUnits {calls : List Call} {unit : UnitHandle} {source : IndexHandle} :
    (unit, source) ∈ madeUnits calls ↔ .unitMade unit source ∈ ledger calls := by
  rw [madeUnits, List.mem_filterMap]
  constructor
  · rintro ⟨passage, member, made⟩
    cases passage <;> cases made
    exact member
  · intro member
    exact ⟨_, member, rfl⟩

/-- No index handle and no unit handle was returned a second time. -/
structure FreshHandles (calls : List Call) : Prop where
  indexes : (madeIndexes calls).Nodup
  units : ((madeUnits calls).map Prod.fst).Nodup

/-- Handles that were fresh to the end were fresh before. -/
theorem FreshHandles.of_append {calls more : List Call} (fresh : FreshHandles (calls ++ more)) :
    FreshHandles calls := by
  obtain ⟨indexes, units⟩ := fresh
  simp only [madeIndexes, madeUnits, ledger_append, List.filterMap_append, List.map_append] at indexes units
  exact ⟨(List.nodup_append.mp indexes).1, (List.nodup_append.mp units).1⟩

theorem FreshHandles.of_split {calls before after : List Call} {call : Call} (fresh : FreshHandles calls)
    (split : calls = before ++ call :: after) : FreshHandles before := by
  rw [split] at fresh
  exact fresh.of_append

/-- A fresh unit is not made a second time, from whatever index. -/
theorem FreshHandles.unit_not_again {calls more : List Call} (fresh : FreshHandles (calls ++ more))
    {unit : UnitHandle} {source other : IndexHandle} (made : .unitMade unit source ∈ ledger calls) :
    .unitMade unit other ∉ ledger more := by
  intro again
  have units := fresh.units
  simp only [madeUnits, ledger_append, List.filterMap_append, List.map_append] at units
  refine (List.nodup_append.mp units).2.2 unit ?_ unit ?_ rfl
  · exact List.mem_map_of_mem (mem_madeUnits.mpr made)
  · exact List.mem_map_of_mem (mem_madeUnits.mpr again)

/-- Nor is a fresh index. -/
theorem FreshHandles.index_not_again {calls more : List Call} (fresh : FreshHandles (calls ++ more))
    {index : IndexHandle} (made : .indexMade index ∈ ledger calls) : .indexMade index ∉ ledger more := by
  intro again
  have indexes := fresh.indexes
  simp only [madeIndexes, ledger_append, List.filterMap_append] at indexes
  exact (List.nodup_append.mp indexes).2.2 index (mem_madeIndexes.mpr made) index
    (mem_madeIndexes.mpr again) rfl

def IndexInUse (calls : List Call) (index : IndexHandle) : Prop :=
  .indexMade index ∈ ledger calls ∧ .indexDisposed index ∉ ledger calls

def UnitInUse (calls : List Call) (unit : UnitHandle) : Prop :=
  (∃ source, .unitMade unit source ∈ ledger calls) ∧ .unitDisposed unit ∉ ledger calls

/-- A cursor got from a unit: its root, or what the engine answered about another cursor got from it. -/
inductive CursorOf (calls : List Call) (unit : UnitHandle) : CursorHandle → Prop
  | root {c : CursorHandle} (asked : .asked (.rootCursor unit) c ∈ calls) : CursorOf calls unit c
  | link {l : Link} {c d : CursorHandle} (source : CursorOf calls unit c)
      (asked : .asked (.link l c) d ∈ calls) : CursorOf calls unit d
  | argument {index : UInt32} {c d : CursorHandle} (source : CursorOf calls unit c)
      (asked : .asked (.argument c index) d ∈ calls) : CursorOf calls unit d
  | child {walk : Walk} {c d : CursorHandle} (source : CursorOf calls unit c)
      (walked : .walked c walk ∈ calls) (shown : d ∈ walk.shown) : CursorOf calls unit d

def FileOf (calls : List Call) (unit : UnitHandle) (file : FileHandle) : Prop :=
  ∃ path, .asked (.getFile unit path) file ∈ calls

/-- Where a cursor comes from is not forgotten. -/
theorem CursorOf.mono {calls more : List Call} {unit : UnitHandle} {c : CursorHandle}
    (subset : calls ⊆ more) (source : CursorOf calls unit c) : CursorOf more unit c := by
  induction source with
  | root asked => exact .root (subset asked)
  | link _ asked ih => exact .link ih (subset asked)
  | argument _ asked ih => exact .argument ih (subset asked)
  | child _ walked shown ih => exact .child ih (subset walked) shown

theorem FileOf.mono {calls more : List Call} {unit : UnitHandle} {file : FileHandle}
    (subset : calls ⊆ more) (source : FileOf calls unit file) : FileOf more unit file :=
  source.imp fun _ asked => subset asked

/-! ## What a call may receive -/

/-- A condition on the handles that a call receives, one for each kind. -/
structure HandleLaw where
  index : IndexHandle → Prop
  unit : UnitHandle → Prop
  file : FileHandle → Prop
  string : StringHandle → Prop
  cursor : CursorHandle → Prop

/-- Every handle that a query receives meets the condition. Of the two cursors of a comparison one may
be the null cursor instead. -/
def Query.Obeys (law : HandleLaw) : Query → Prop
  | .createIndex _ => True
  | .disposeIndex index | .parse index .. | .load index _ => law.index index
  | .defaultReparseOptions unit | .reparse unit .. | .defaultSaveOptions unit | .save unit ..
  | .disposeUnit unit | .unitSpelling unit | .rootCursor unit | .getFile unit _ => law.unit unit
  | .fileName file | .fileTime file => law.file file
  | .readString s | .disposeString s => law.string s
  | .equalCursors a b =>
    law.cursor a ∧ (law.cursor b ∨ b = CursorHandle.null) ∨ a = CursorHandle.null ∧ law.cursor b
  | .hash c | .link _ c | .text _ c | .test _ c | .argumentCount c | .argument c _ | .bitWidth c =>
    law.cursor c

def Call.Obeys (law : HandleLaw) : Call → Prop
  | .asked q _ => q.Obeys law
  | .walked c _ => law.cursor c

/-- One condition on handles is at least as strict as another. -/
structure HandleLaw.Implies (law weaker : HandleLaw) : Prop where
  index : ∀ {index}, law.index index → weaker.index index
  unit : ∀ {unit}, law.unit unit → weaker.unit unit
  file : ∀ {file}, law.file file → weaker.file file
  string : ∀ {s}, law.string s → weaker.string s
  cursor : ∀ {c}, law.cursor c → weaker.cursor c

private theorem Query.Obeys.mono {law weaker : HandleLaw} (implies : law.Implies weaker) {q : Query}
    (obeys : q.Obeys law) : q.Obeys weaker := by
  cases q with
  | createIndex => trivial
  | disposeIndex | parse | load => exact implies.index obeys
  | defaultReparseOptions | reparse | defaultSaveOptions | save | disposeUnit | unitSpelling
  | rootCursor | getFile => exact implies.unit obeys
  | fileName | fileTime => exact implies.file obeys
  | readString | disposeString => exact implies.string obeys
  | equalCursors =>
    rcases obeys with ⟨first, second⟩ | ⟨first, second⟩
    · exact .inl ⟨implies.cursor first, second.imp_left implies.cursor⟩
    · exact .inr ⟨first, implies.cursor second⟩
  | hash | link | text | test | argumentCount | argument | bitWidth => exact implies.cursor obeys

/-- Whoever keeps to the stricter law keeps to the weaker one. -/
theorem Call.Obeys.mono {law weaker : HandleLaw} (implies : law.Implies weaker) {call : Call}
    (obeys : call.Obeys law) : call.Obeys weaker := by
  cases call with
  | asked q answer => exact Query.Obeys.mono implies obeys
  | walked c walk => exact implies.cursor obeys

/-- A call that makes a unit receives the index that it makes the unit from. -/
theorem Call.Obeys.source {law : HandleLaw} {call : Call} (obeys : call.Obeys law) {unit : UnitHandle}
    {source : IndexHandle} (made : call.passage? = some (.unitMade unit source)) : law.index source := by
  cases call with
  | walked c walk => cases made
  | asked q answer =>
    cases q <;> simp only [passage?, Option.ite_none_left_eq_some, Option.some.injEq, reduceCtorEq,
      and_false, Passage.unitMade.injEq] at made
    · exact made.2.2 ▸ obeys
    · exact made.2.2 ▸ obeys

end HandleGraph
