import HandleGraph.Proofs.ParallelRuns

/-! # Units do not interfere

A unit is opened into a slot, and a family of slots is used for nothing but what is got from it. Two runs that do
the same with these slots may differ in everything else: in other units of the same index and of others, in how
often these are parsed, reparsed, saved elsewhere, cloned and let go of, and in when this happens. Whatever is
done with the unit comes to the same in both runs up to the handles by which they call it, and as long as
anything refers to it, neither the unit nor its index is disposed.
-/

namespace HandleGraph

variable {σ : Type} {E : Engine σ} {load : Loading σ Unit} {mine : String → Bool} {elsewhere : CString → Prop}
  {u u' : TranslationUnit}

/-! ## A unit is opened -/

/-- The command opens a unit, from a source or from a saved unit. -/
def Command.OpensUnit : Command → Prop
  | .parse .. | .read .. | .ofSource .. | .ofAstFile _ => True
  | _ => False

private theorem Command.OpensUnit.onGraph {c : Command} (opens : c.OpensUnit) : c.OnGraph := by
  cases c with
  | readNullString => exact opens
  | _ => trivial

namespace Session

/-- A unit that was just opened is in one slot of the family, and the others are empty. -/
structure Opened (mine : String → Bool) (slot : String) (u : TranslationUnit) (s : Session σ) : Prop where
  houses : s.Houses mine u
  here : s.slots.find? slot = some (.unit u)
  others : ∀ other, mine other → other ≠ slot → s.slots.find? other = none
  owners : u.owners s.world = 1
  generation : u.generation s.world = 0

/-- A unit is opened on an index or on none. Nothing has become of a command that finds no index. -/
private theorem opens_named {s : Session σ} {r : Request} (opens : r.command.OpensUnit) {on : String}
    (named : on ∈ r.command.slots) :
    (∃ i, s.slots.find? on = some (.index i)) ∨ (step E load r s).2 = s := by
  have misses {next : Index → Job σ Outcome} (ran : (r.command.run E load).run s =
      (Job.held on Object.index? >>= next).run s) :
      (∃ i, s.slots.find? on = some (.index i)) ∨ (step E load r s).2 = s := by
    cases picked : s.slots.find? on >>= Object.index? with
    | some i =>
      obtain ⟨o, present, picked⟩ := Option.bind_eq_some_iff.mp picked
      exact .inl ⟨i, Object.eq_of_index? picked ▸ present⟩
    | none =>
      have held : (Job.held on Object.index? : Job σ Index).run s = _ := Job.held_apply on Object.index? s
      rw [picked] at held
      rw [ExceptT.run_bind, bind_apply, held] at ran
      exact .inr (congrArg Prod.snd (step_error ran))
  obtain ⟨command, into⟩ := r
  cases command with
  | parse | read =>
    obtain rfl := List.mem_singleton.mp named
    exact misses rfl
  | ofSource | ofAstFile => cases named
  | _ => exact opens.elim

/-- A unit that is opened into an empty slot was not there before. -/
private theorem opens_new (silent : Silent load) {s : Session σ} (sound : s.Sound) {r : Request}
    (opens : r.command.OpensUnit) {slot : String} (into : r.into = some slot) (empty : s.slots.find? slot = none)
    (opened : (step E load r s).2.slots.find? slot = some (.unit u)) :
    s.world.units.length ≤ u.cell ∧ u.generation (step E load r s).2.world = 0 := by
  have changed : (step E load r s).2 ≠ s := by
    intro same
    rw [same, empty] at opened
    cases opened
  -- what the request does, it does without the objects that it does not name
  have theirs : ∀ slot ∈ r.slots, decide (slot ∈ r.slots) = true := fun slot => decide_eq_true
  have keeps : KeepsTo _ (step E load r) := step_keepsTo theirs
  obtain ⟨world, slots⟩ := keeps.only s
  have stepped : Stepped E load _ r _ _ :=
    step_stepped silent (sound.only fun slot => decide (slot ∈ r.slots)) r opens.onGraph
  have none (v : TranslationUnit) : .unit v ∉ (s.only fun slot => decide (slot ∈ r.slots)).owners := by
    intro own
    obtain ⟨other, o, present, own⟩ := (sound.only _).ordered.mem_owners_iff.mp own
    rw [Session.only, SlotMap.find?_only] at present
    split_ifs at present with named
    rcases List.mem_append.mp (of_decide_eq_true named) with here | here
    · have same : other = slot := by simpa [into] using here
      rw [same, empty] at present
      cases present
    · obtain ⟨i, index⟩ := (opens_named (E := E) opens here).resolve_right changed
      obtain rfl : Object.index i = o := Option.some.inj (index.symm.trans present)
      simp [Object.owners] at own
  have here : slot ∈ r.slots := List.mem_append_left _ (by simp [into])
  obtain ⟨b, course, books⟩ := stepped.entered
  rw [renewed_of_ne fun on unsaved options same => by rw [same] at opens; exact opens] at books
  have new : s.world.units.length ≤ u.cell := by
    by_contra known
    refine (course.bystander (not_le.mp known) (none u)).2 ?_
    refine stepped.sound.ordered.mem_owners_iff.mpr ⟨slot, .unit u, ?_, Multiset.mem_singleton_self _⟩
    rw [slots, if_pos (decide_eq_true here)]
    exact opened
  refine ⟨new, ?_⟩
  have generation : u.generation b = u.generation s.world := course.generation u
  have same : u.generation (step E load r s).2.world = u.generation b := by
    rw [← world]
    exact congrArg (fun b : Books => u.generation b) books
  rw [same, generation, TranslationUnit.generation, List.getElem?_eq_none new]
  rfl

/-- A unit that is opened into an empty family of slots is nobody else's. -/
theorem step_opens (silent : Silent load) {s : Session σ} (kept : s.Kept)
    (empty : ∀ slot, mine slot → s.slots.find? slot = none) {r : Request} (opens : r.command.OpensUnit) {slot : String}
    (into : r.into = some slot) (here : mine slot)
    (opened : (step E load r s).2.slots.find? slot = some (.unit u)) : Opened mine slot u (step E load r s).2 := by
  obtain ⟨new, generation⟩ := opens_new silent kept.sound opens into (empty slot here) opened
  have stepped := step_stepped (E := E) silent kept.sound r opens.onGraph
  have kept' := kept.step (E := E) silent opens.onGraph
  -- in the other slots is what was there before
  have elsewhere (other : String) (o : Object) (apart : other ≠ slot)
      (present : (step E load r s).2.slots.find? other = some o) :
      ∃ old, s.slots.find? other = some old ∧ o.place = old.place := by
    have origin := stepped.objects other o present
    rwa [if_neg fun both => apart (Option.some.inj (into.symm.trans both.1)).symm] at origin
  have others (other : String) (also : mine other) (apart : other ≠ slot) :
      (step E load r s).2.slots.find? other = none := by
    by_contra present
    obtain ⟨o, present⟩ := Option.ne_none_iff_exists'.mp present
    obtain ⟨old, before, -⟩ := elsewhere other o apart present
    rw [empty other also] at before
    cases before
  have withheld : (step E load r s).2.Withholds mine u := by
    intro other o notMine present own
    have apart : other ≠ slot := by
      rintro rfl
      rw [here] at notMine
      cases notMine
    obtain ⟨old, before, place⟩ := elsewhere other o apart present
    have own' := (kept'.sound.objects other o present).mem_owners_of_place place.symm own
    have owned := kept.books.balanced.unit_owned_of_mem (kept.sound.mem_owners before own')
    exact absurd (s.world.known_of_unit_owned owned) (not_lt.mpr new)
  refine ⟨⟨kept', (kept'.sound.unit opened).2, withheld⟩, opened, others, ?_, generation⟩
  have alone : .unit u ∉ ((step E load r s).2.slots.erase slot).owners := by
    intro own
    obtain ⟨other, o, present, own⟩ := (kept'.sound.ordered.erase slot).mem_owners_iff.mp own
    rw [SlotMap.find?_erase] at present
    split_ifs at present with apart
    cases also : mine other with
    | true =>
      rw [others other also apart] at present
      cases present
    | false => exact withheld other o also present own
  have counted : u.owners (step E load r s).2.world = (step E load r s).2.owners.count (.unit u) :=
    kept'.books.balanced.unit_owners u
  rw [counted, Session.owners, kept'.sound.ordered.owners_erase opened, Multiset.count_add,
    Multiset.count_eq_zero_of_notMem alone]
  simp [Object.owners]

end Session

namespace Session

/-- A slot that no request has named is empty. -/
theorem find?_after {engine : σ} {requests : List Request} (outside : ∀ r ∈ requests, r.Outside mine) {slot : String}
    (here : mine slot) : (after E load engine requests).slots.find? slot = none := by
  induction requests using List.reverseRecOn with
  | nil => rfl
  | append_singleton earlier r ih =>
    have theirs := outside r (List.mem_append_right _ (List.mem_singleton_self r))
    have keeps : KeepsTo (mine · = false) (step E load r) := step_keepsTo theirs.slots
    rw [after_concat, keeps.find? _ (by simp [here])]
    exact ih fun r member => outside r (List.mem_append_left _ member)

/-- A unit in either of two sessions, of which nothing has been got. -/
def matching (u u' : TranslationUnit) (s t : Session σ) : Matching :=
  .first (u.raw s.world) (u'.raw t.world) ((u.index s.world).raw s.world) ((u'.index t.world).raw t.world)

/-- Sessions in which a unit was just opened are in parallel when the engine knows the same of it. -/
theorem Opened.parallel {same : Matching → σ → σ → Prop} {slot : String} {s t : Session σ}
    (opened : Opened mine slot u s) (opened' : Opened mine slot u' t)
    (source : same (matching u u' s t) s.world.engine t.world.engine) :
    Parallel same mine u u' (matching u u' s t) s t where
  houses := opened.houses
  houses' := opened'.houses
  owners := opened.owners.trans opened'.owners.symm
  facts inUse := by
    have inUse' : 0 < u'.owners t.world := opened'.owners ▸ Nat.one_pos
    exact ⟨rfl, rfl, rfl, rfl, opened.houses.kept.books.balanced.owned_of_unit inUse,
      opened'.houses.kept.books.balanced.owned_of_unit inUse', opened.generation.trans opened'.generation.symm, source⟩
  slots other also := by
    by_cases here : other = slot
    · rw [here, opened.here, opened'.here]
      exact .some (.unit (show 0 < u.owners s.world from opened.owners ▸ Nat.one_pos))
    · rw [opened.others other also here, opened'.others other also here]
      exact .none

end Session

/-! ## Runs with a unit -/

/-- A run in which a unit is opened by one of the requests. -/
structure UnitRun (σ : Type) where
  engine : σ
  before : List Request
  opening : Request
  later : List Request

namespace UnitRun

def opened (E : Engine σ) (load : Loading σ Unit) (run : UnitRun σ) : Session σ :=
  Session.after E load run.engine (run.before ++ [run.opening])

def reached (E : Engine σ) (load : Loading σ Unit) (run : UnitRun σ) (done : List Request) : Session σ :=
  (Session.run E load done (run.opened E load)).2

/-- What comes of the requests that name a slot of the family. -/
def ownTurns (E : Engine σ) (load : Loading σ Unit) (mine : String → Bool) (run : UnitRun σ) : List Session.Turn :=
  Session.ownTurns E load mine run.later (run.opened E load)

/-- A unit is opened into a slot of a family, and the family is used for nothing else. -/
structure Proper (E : Engine σ) (load : Loading σ Unit) (mine : String → Bool) (elsewhere : CString → Prop)
    (slot : String) (u : TranslationUnit) (run : UnitRun σ) : Prop where
  before : ∀ r ∈ run.before, r.Outside mine
  opens : run.opening.command.OpensUnit
  into : run.opening.into = some slot
  here : (run.opened E load).slots.find? slot = some (.unit u)
  later : Session.Fair E load mine elsewhere run.later (run.opened E load)

/-- When any object refers to the unit, neither the unit nor its index was disposed since the unit was opened. -/
def Retains (E : Engine σ) (load : Loading σ Unit) (u : TranslationUnit) (run : UnitRun σ) : Prop :=
  ∀ done, done <+: run.later → ∀ slot o, (run.reached E load done).slots.find? slot = some o → o.RefersTo u →
    AddsOnly (·.Retains (u.raw (run.opened E load).world)
        ((u.index (run.opened E load).world).raw (run.opened E load).world))
      (run.opened E load).world.calls (run.reached E load done).world.calls

namespace Proper

variable {slot : String} {run : UnitRun σ} (proper : run.Proper E load mine elsewhere slot u) (silent : Silent load)

include proper silent

private theorem opensUnit (among : mine slot) : Session.Opened mine slot u (run.opened E load) := by
  have kept : (Session.after E load run.engine run.before).Kept :=
    .after silent run.engine fun r member => (proper.before r member).graph
  have here := proper.here
  rw [opened, Session.after_concat] at here ⊢
  exact Session.step_opens silent kept (fun _ => Session.find?_after proper.before) proper.opens proper.into among here

private theorem retains (among : mine slot) : run.Retains E load u := by
  rintro done ⟨rest, split⟩ other o present refers
  have opened := proper.opensUnit silent among
  have graph (r : Request) (member : r ∈ run.later) := (proper.later.proper r member).graph
  rw [← split] at graph
  have earlier := opened.houses.kept.run (E := E) silent fun r member => graph r (List.mem_append_left rest member)
  have later := earlier.1.run (E := E) silent fun r member => graph r (List.mem_append_right done member)
  have apart := proper.later.apart
  rw [← split, Session.run_append] at apart
  have own := earlier.1.sound.mem_owners present (Object.refersTo_iff.mp refers)
  exact (Session.run_retains silent opened.houses.kept opened.houses.known
    (fun r member => graph r (List.mem_append_left rest member)) own (apart.of_prefix later.2.calls)).2

end Proper

/-- Whatever else the runs do, what comes of the requests on the unit is the same in both but for the handles, and
the unit and its index are not disposed as long as anything refers to the unit. -/
theorem noninterference {same : Matching → σ → σ → Prop} (isolated : Isolated E elsewhere same)
    (loads : LoadsApart same load) {slot : String} (among : mine slot) {run run' : UnitRun σ}
    (proper : run.Proper E load mine elsewhere slot u) (proper' : run'.Proper E load mine elsewhere slot u')
    (source : same (Session.matching u u' (run.opened E load) (run'.opened E load)) (run.opened E load).world.engine
      (run'.opened E load).world.engine)
    (own : run.later.filter (·.touches mine) = run'.later.filter (·.touches mine)) :
    (∃ m, (Session.matching u u' (run.opened E load) (run'.opened E load)).Grows m ∧
      List.Forall₂ (m.Turns mine) (run.ownTurns E load mine) (run'.ownTurns E load mine)) ∧
    run.Retains E load u ∧ run'.Retains E load u' := by
  have opened := proper.opensUnit loads.silent among
  have opened' := proper'.opensUnit loads.silent among
  have parallel := opened.parallel opened' source
  exact ⟨parallel.run isolated loads (.of_filter own) proper.later proper'.later,
    proper.retains loads.silent among, proper'.retains loads.silent among⟩

end UnitRun

/-! ## An engine that counts reparses -/

/-- Handles that were handed out only once are handed out apart. -/
theorem FreshHandles.handlesApart {calls : List Call} (fresh : FreshHandles calls) : HandlesApart calls := by
  intro before call after split r native made
  have once : (ledger (before ++ [call])).countP r.madeBy ≤ 1 := by
    rw [split, List.append_cons] at fresh
    obtain ⟨indexes, units⟩ := fresh.of_append
    cases r with
    | index raw => rw [countP_madeBy_index]; exact List.nodup_iff_count_le_one.mp indexes raw
    | unit raw => rw [countP_madeBy_unit]; exact List.nodup_iff_count_le_one.mp units raw
    | string t => exact absurd rfl (native t)
  rw [ledger_concat, List.countP_append] at once
  cases passed : call.passage? with
  | none =>
    rw [passed] at made
    cases made
  | some p =>
    rw [passed, Option.toList_some, List.countP_singleton, if_pos (by simpa [passed] using made)] at once
    rw [outstanding]
    omega

namespace Sample

/-- The handles that were handed out, and the units that were reparsed. -/
structure Tally where
  issued : UInt64 := 0
  reparsed : List UnitHandle := []

namespace Tally

/-- A text about a unit. It changes when the unit is reparsed. -/
def text (unit : UnitHandle) (t : Tally) : StringHandle := ⟨.ofNat (t.reparsed.count unit + 1), 0⟩

/-- A unit has one cursor, and it leads to itself. A reparse with options fails. -/
def answer : (q : Query) → Tally → q.Answer × Tally
  | .createIndex _, t => (⟨t.issued + 1⟩, { t with issued := t.issued + 1 })
  | .parse .., t | .load .., t => (⟨t.issued + 1⟩, { t with issued := t.issued + 1 })
  | .reparse unit _ options, t =>
    if options = 0 then (0, { t with reparsed := unit :: t.reparsed }) else (1, t)
  | .defaultReparseOptions _, t | .defaultSaveOptions _, t => (0, t)
  | .save .., t => (0, t)
  | .disposeIndex _, t | .disposeUnit _, t | .disposeString _, t => ((), t)
  | .unitSpelling unit, t => (t.text unit, t)
  | .rootCursor unit, t => (⟨300, 0, unit.address, 0, 0⟩, t)
  | .getFile unit _, t => (⟨unit.address⟩, t)
  | .fileName file, t => (t.text ⟨file.address⟩, t)
  | .fileTime file, t => (.ofNat (t.reparsed.count ⟨file.address⟩), t)
  | .readString s, t => (some (toString s.data.toNat), t)
  | .equalCursors a b, t => (a = b, t)
  | .hash _, t => (0, t)
  | .link _ c, t | .argument c _, t => (c, t)
  | .text _ c, t => (if c.isNull then NullHandle.null else t.text ⟨c.data0⟩, t)
  | .test .., t => (false, t)
  | .argumentCount _, t | .bitWidth _, t => (0, t)

end Tally

def tally : Engine Tally := ⟨Tally.answer, fun _ _ t => ([], t)⟩

/-- As often was the unit reparsed in either state. -/
structure Tally.Agree (m : Matching) (t t' : Tally) : Prop where
  reparsed : t.reparsed.count m.unit = t'.reparsed.count m.unit'
  null : m.unit.isNull = m.unit'.isNull
  file : ∀ {f f'}, m.file f f' → f = ⟨m.unit.address⟩ ∧ f' = ⟨m.unit'.address⟩
  cursor : ∀ {c c'}, m.cursor c c' → c = .null ∧ c' = .null ∨
    c = ⟨300, 0, m.unit.address, 0, 0⟩ ∧ c' = ⟨300, 0, m.unit'.address, 0, 0⟩

namespace Tally

def everything (m : Matching) (null : m.unit.isNull = m.unit'.isNull) : Matching where
  unit := m.unit
  unit' := m.unit'
  index := m.index
  index' := m.index'
  file f f' := f = ⟨m.unit.address⟩ ∧ f' = ⟨m.unit'.address⟩
  cursor c c' := c = .null ∧ c' = .null ∨
    c = ⟨300, 0, m.unit.address, 0, 0⟩ ∧ c' = ⟨300, 0, m.unit'.address, 0, 0⟩
  file_unique := by
    rintro f f' g g' ⟨rfl, rfl⟩ ⟨rfl, rfl⟩
    exact iff_of_true rfl rfl
  file_null := by
    rintro f f' ⟨rfl, rfl⟩
    exact null
  cursor_unique := by
    rintro c c' d d' (⟨rfl, rfl⟩ | ⟨rfl, rfl⟩) (⟨rfl, rfl⟩ | ⟨rfl, rfl⟩)
    · exact iff_of_true rfl rfl
    · exact iff_of_false nofun nofun
    · exact iff_of_false nofun nofun
    · exact iff_of_true rfl rfl
  cursor_null := by
    rintro c c' (⟨rfl, rfl⟩ | ⟨rfl, rfl⟩) <;> rfl
  cursor_kind := by
    rintro c c' (⟨rfl, rfl⟩ | ⟨rfl, rfl⟩) <;> rfl
  null_cursor := .inl ⟨rfl, rfl⟩

variable {m : Matching} {t t' : Tally}

private theorem Agree.grows (agree : Agree m t t') : m.Grows (everything m agree.null) :=
  ⟨rfl, rfl, rfl, rfl, agree.file, agree.cursor⟩

/-- What is got from the unit makes no difference to what is known of it. -/
theorem Agree.everything (agree : Agree m t t') : Agree (everything m agree.null) t t' :=
  ⟨agree.reparsed, agree.null, id, id⟩

private theorem Agree.text_eq (agree : Agree m t t') : t.text m.unit = t'.text m.unit' := by
  rw [text, text, agree.reparsed]

/-- States in which the units were reparsed as often. -/
theorem Agree.of_reparsed {s s' : Tally} (agree : Agree m t t')
    (same : s.reparsed.count m.unit = s'.reparsed.count m.unit') : Agree m s s' :=
  ⟨same, agree.null, agree.file, agree.cursor⟩

/-- Nothing but a reparse is counted. -/
theorem reparsed_answer {q : Query} {unit : UnitHandle} {index : IndexHandle} (spares : q.Spares unit index) :
    (answer q t).2.reparsed.count unit = t.reparsed.count unit := by
  cases q with
  | reparse other files options =>
    by_cases accepted : options = 0
    · simp only [answer, if_pos accepted]
      exact List.count_cons_of_ne spares
    · simp only [answer, if_neg accepted]
  | _ => rfl

end Tally

private theorem tally_isolated : Isolated tally (fun _ => True) Tally.Agree where
  answers {m t t' q q' good} agree asks := by
    cases asks with
    | reparse files options =>
      refine ⟨m, .refl m, ?_⟩
      by_cases accepted : options = 0
      · simp only [tally, Tally.answer, if_pos accepted, and_true]
        exact agree.of_reparsed (by simp [agree.reparsed])
      · simp only [tally, Tally.answer, if_neg accepted, and_true]
        exact agree
    | root => exact ⟨_, agree.grows, agree.everything, .inr ⟨rfl, rfl⟩⟩
    | getFile path => exact ⟨_, agree.grows, agree.everything, rfl, rfl⟩
    | fileTime matched =>
      obtain ⟨rfl, rfl⟩ := agree.file matched
      exact ⟨m, .refl m, agree, congrArg Int64.ofNat agree.reparsed⟩
    | equalCursors matched matched' =>
      exact ⟨m, .refl m, agree, decide_eq_decide.mpr (m.cursor_unique matched matched')⟩
    | link l matched => exact ⟨m, .refl m, agree, matched⟩
    | argument matched index => exact ⟨m, .refl m, agree, matched⟩
    | _ => exact ⟨m, .refl m, agree, rfl⟩
  texts {m t t' source source'} agree copies := by
    have quiet (source : TextSource) (t : Tally) : (source.handOut tally t).2 = t := by cases source <;> rfl
    have text : (source.handOut tally t).1 = (source'.handOut tally t').1 := by
      cases copies with
      | unit => exact agree.text_eq
      | file matched =>
        obtain ⟨rfl, rfl⟩ := agree.file matched
        exact agree.text_eq
      | cursor kind matched =>
        obtain ⟨rfl, rfl⟩ | ⟨rfl, rfl⟩ := agree.cursor matched
        · rfl
        · exact agree.text_eq
    refine ⟨m, .refl m, ?_, congrArg _ text, ?_⟩
    · rw [quiet, quiet]
      exact agree
    · exact congrArg (fun s : StringHandle => some (toString s.data.toNat)) text
  children agree _ := ⟨_, .refl _, agree, .nil⟩
  left agree spares _ := agree.of_reparsed ((Tally.reparsed_answer spares).trans agree.reparsed)
  right agree spares _ := agree.of_reparsed (agree.reparsed.trans (Tally.reparsed_answer spares).symm)
  left_walk := id
  right_walk := id

def chosen (slot : String) : Bool := slot == "unit" || slot == "root"

/-- A unit is opened, and nothing else is done than what is done with it. -/
def alone : UnitRun Tally where
  engine := {}
  before := [⟨.createIndex {}, some "index"⟩]
  opening := ⟨.parse "index" [97] [] [] ⟨0⟩, some "unit"⟩
  later := [
    ⟨.root "unit", some "root"⟩,
    ⟨.unitIndex "unit", some "lent"⟩,
    ⟨.ask ⟨"root", []⟩ .spelling, none⟩,
    ⟨.reparse "unit" [] none, none⟩,
    ⟨.drop "unit", none⟩,
    ⟨.ask ⟨"root", []⟩ .view, none⟩,
    ⟨.drop "root", none⟩]

/-- The same is done with a unit that shares its index with another. The other is reparsed twice, once without
success, and let go of while the unit is in use. -/
def beside : UnitRun Tally where
  engine := {}
  before := [⟨.createIndex {}, some "spare"⟩, ⟨.createIndex {}, some "index"⟩,
    ⟨.parse "index" [98] [] [] ⟨0⟩, some "other"⟩]
  opening := ⟨.parse "index" [97] [] [] ⟨0⟩, some "unit"⟩
  later := [
    ⟨.drop "index", none⟩,
    ⟨.root "unit", some "root"⟩,
    ⟨.unitIndex "unit", some "lent"⟩,
    ⟨.reparse "other" [] none, none⟩,
    ⟨.ask ⟨"root", []⟩ .spelling, none⟩,
    ⟨.reparse "unit" [] none, none⟩,
    ⟨.drop "unit", none⟩,
    ⟨.reparse "other" [] (some ⟨1⟩), none⟩,
    ⟨.drop "other", none⟩,
    ⟨.ask ⟨"root", []⟩ .view, none⟩,
    ⟨.drop "root", none⟩]

private theorem find?_of_unit? {s : Session σ} {slot : String}
    (picked : (s.slots.find? slot).bind Object.unit? = some u) :
    s.slots.find? slot = some (.unit u) := by
  obtain ⟨o, present, picked⟩ := Option.bind_eq_some_iff.mp picked
  exact Object.eq_of_unit? picked ▸ present

private theorem proper_inside {r : Request} (graph : r.command.OnGraph) (slots : ∀ slot ∈ r.slots, mine slot)
    (opensNothing : r.command.OpensNothing) : r.Proper mine := ⟨graph, fun _ => .inl ⟨slots, opensNothing⟩⟩

private theorem proper_outside {r : Request} (graph : r.command.OnGraph) (other : r.touches mine = false) :
    r.Proper mine :=
  ⟨graph, fun touched => absurd touched (by simp [other])⟩

private theorem proper_lends : Request.Proper chosen ⟨.unitIndex "unit", some "lent"⟩ :=
  ⟨trivial, fun _ => .inr (.mk (by decide) (by simp [chosen]))⟩

private theorem savesTo_any (call : Call) : call.SavesTo fun _ => True := by
  cases call with
  | walked => trivial
  | asked q answer => cases q <;> trivial

private theorem alone_proper : alone.Proper tally (pure ()) chosen (fun _ => True) "unit" ⟨0⟩ where
  before := by simpa only [alone, List.forall_mem_singleton] using ⟨trivial, by decide⟩
  opens := trivial
  into := rfl
  here := find?_of_unit? (by decide +kernel)
  later := {
    proper := by
      simp only [alone, List.forall_mem_cons, List.not_mem_nil, false_imp_iff, implies_true, and_true]
      exact ⟨proper_inside trivial (by decide) trivial, proper_lends, proper_inside trivial (by decide) trivial,
        proper_inside trivial (by decide) trivial, proper_inside trivial (by decide) trivial,
        proper_inside trivial (by decide) trivial, proper_inside trivial (by decide) trivial⟩
    saves := fun _ _ _ call _ => savesTo_any call
    apart := FreshHandles.handlesApart ⟨by decide +kernel, by decide +kernel⟩ }

private theorem beside_proper : beside.Proper tally (pure ()) chosen (fun _ => True) "unit" ⟨1⟩ where
  before := by
    simp only [beside, List.forall_mem_cons, List.not_mem_nil, false_imp_iff, implies_true, and_true]
    exact ⟨⟨trivial, by decide⟩, ⟨trivial, by decide⟩, ⟨trivial, by decide⟩⟩
  opens := trivial
  into := rfl
  here := find?_of_unit? (by decide +kernel)
  later := {
    proper := by
      simp only [beside, List.forall_mem_cons, List.not_mem_nil, false_imp_iff, implies_true, and_true]
      exact ⟨proper_outside trivial (by decide), proper_inside trivial (by decide) trivial, proper_lends,
        proper_outside trivial (by decide), proper_inside trivial (by decide) trivial,
        proper_inside trivial (by decide) trivial, proper_inside trivial (by decide) trivial,
        proper_outside trivial (by decide), proper_outside trivial (by decide),
        proper_inside trivial (by decide) trivial, proper_inside trivial (by decide) trivial⟩
    saves := fun _ _ _ call _ => savesTo_any call
    apart := FreshHandles.handlesApart ⟨by decide +kernel, by decide +kernel⟩ }

end Sample

/-- The unit is called by another handle when there is another unit, and that is all the difference. -/
theorem noninterference_sample :
    Isolated Sample.tally (fun _ => True) Sample.Tally.Agree ∧
      Sample.alone.Proper Sample.tally (pure ()) Sample.chosen (fun _ => True) "unit" ⟨0⟩ ∧
      Sample.beside.Proper Sample.tally (pure ()) Sample.chosen (fun _ => True) "unit" ⟨1⟩ ∧
      (∃ m : Matching, m.unit = ⟨2⟩ ∧ m.unit' = ⟨4⟩ ∧ List.Forall₂ (m.Turns Sample.chosen)
        (Sample.alone.ownTurns Sample.tally (pure ()) Sample.chosen)
        (Sample.beside.ownTurns Sample.tally (pure ()) Sample.chosen)) ∧
      Sample.alone.Retains Sample.tally (pure ()) ⟨0⟩ ∧ Sample.beside.Retains Sample.tally (pure ()) ⟨1⟩ := by
  have source : Sample.Tally.Agree (Session.matching ⟨0⟩ ⟨1⟩ (Sample.alone.opened Sample.tally (pure ()))
      (Sample.beside.opened Sample.tally (pure ()))) (Sample.alone.opened Sample.tally (pure ())).world.engine
      (Sample.beside.opened Sample.tally (pure ())).world.engine :=
    ⟨by decide +kernel, by decide +kernel, False.elim, .inl⟩
  obtain ⟨⟨m, grown, turns⟩, retains, retains'⟩ := UnitRun.noninterference Sample.tally_isolated
    (.pure Sample.Tally.Agree) (by decide) Sample.alone_proper Sample.beside_proper source (by rfl)
  refine ⟨Sample.tally_isolated, Sample.alone_proper, Sample.beside_proper, ⟨m, ?_, ?_, turns⟩, retains, retains'⟩
  · exact grown.unit.symm.trans (by decide +kernel)
  · exact grown.unit'.symm.trans (by decide +kernel)

end HandleGraph
