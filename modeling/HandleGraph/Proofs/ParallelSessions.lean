import HandleGraph.Proofs.TwinSessions

/-! # Sessions in parallel

Two sessions house a unit in the same slots and agree on it between requests. A request that names no such slot
is carried out in one of them alone. A request on the objects in these slots is carried out in both, with the same
answer and the same calls. A request that lends the unit's index has the same answer in both, and is otherwise
about whatever it puts the index in place of.
-/

namespace HandleGraph

variable {σ : Type} {E : Engine σ} {load : Loading σ Unit} {mine : String → Bool} {elsewhere : CString → Prop}

/-- The call saves nothing but to some paths. -/
def Call.SavesTo (paths : CString → Prop) : Call → Prop
  | .asked q _ => q.SavesTo paths
  | .walked .. => True

/-- Loading an engine enters nothing and is about no unit. -/
structure LoadsApart (same : Matching → σ → σ → Prop) (load : Loading σ Unit) : Prop where
  silent : Silent load
  left : ∀ {m w e}, same m w.engine e → same m (load.run w).2.engine e
  right : ∀ {m w e}, same m e w.engine → same m e (load.run w).2.engine

theorem LoadsApart.pure (same : Matching → σ → σ → Prop) : LoadsApart same (Pure.pure () : Loading σ Unit) :=
  ⟨silent_pure, id, id⟩

/-! ## One session -/

namespace Session

/-- A request that was carried out, its answer and the calls that were made. -/
structure Turn where
  request : Request
  reply : Except Fault Reply
  calls : List Call

def turn (E : Engine σ) (load : Loading σ Unit) (r : Request) (s : Session σ) : Turn :=
  ⟨r, (step E load r s).1, (step E load r s).2.world.calls.drop s.world.calls.length⟩

private theorem turn_calls {r : Request} {s : Session σ} {new : List Call}
    (calls : (step E load r s).2.world.calls = s.world.calls ++ new) : (turn E load r s).calls = new := by
  rw [turn, calls, List.drop_left]

/-- A session in which nobody but the objects in a family of slots owns a unit. -/
structure Houses (mine : String → Bool) (u : TranslationUnit) (s : Session σ) : Prop where
  kept : s.Kept
  known : u.cell < s.world.units.length
  withheld : s.Withholds mine u

/-- What stays the same of a unit in use that nothing is done with. -/
structure LeavesUnit (u : TranslationUnit) (w after : World σ) : Prop where
  raw : u.raw after = u.raw w
  index : (u.index after).raw after = (u.index w).raw w
  indexOwned : 0 < (u.index after).owners after
  generation : u.generation after = u.generation w

/-- Neither the objects in a family of slots nor the unit are concerned. -/
structure PassesBy (mine : String → Bool) (u : TranslationUnit) (s after : Session σ) : Prop where
  houses : after.Houses mine u
  slots : ∀ slot, mine slot → after.slots.find? slot = s.slots.find? slot
  owners : u.owners after.world = u.owners s.world
  leaves : 0 < u.owners s.world → LeavesUnit u s.world after.world

namespace Houses

variable {u : TranslationUnit} {s : Session σ} {r : Request} {first : Books × Multiset Owner}
  (houses : s.Houses mine u)

include houses

/-- Whoever has an object that owns the unit has it in use. -/
theorem inUse {slot : String} {o : Object} (present : s.slots.find? slot = some o) (own : .unit u ∈ o.owners) :
    0 < u.owners s.world :=
  houses.kept.books.balanced.unit_owned_of_mem (houses.kept.sound.mem_owners present own)

private theorem passes (silent : Silent load) (graph : r.command.OnGraph)
    (aside : Aside mine s first (step E load r s).2) :
    PassesBy mine u s (step E load r s).2 := by
  have grown := (step_stepped (E := E) silent houses.kept.sound r graph).extends
  have kept := houses.kept.step (E := E) silent graph
  obtain ⟨cell, withheld⟩ := aside.bystander houses.kept houses.withheld houses.known
  have owners : u.owners (step E load r s).2.world = u.owners s.world := by simp only [TranslationUnit.owners, cell]
  refine ⟨⟨kept, houses.known.trans_le grown.units_length, withheld⟩, aside.slots, owners, fun inUse => ?_⟩
  have index : u.index (step E load r s).2.world = u.index s.world := by simp only [TranslationUnit.index, cell]
  have known := s.world.known_of_owned (houses.kept.books.balanced.owned_of_unit inUse)
  refine ⟨by simp only [TranslationUnit.raw, cell], ?_, ?_, by simp only [TranslationUnit.generation, cell]⟩
  · rw [index]
    exact grown.raw known
  · exact kept.books.balanced.owned_of_unit (owners.symm ▸ inUse)

/-- Whatever the engine keeps in calls that spare the unit is kept. -/
theorem keeps {P : σ → Prop} (silent : Silent load) (loads : ∀ w, P w.engine → P (load.run w).2.engine)
    (graph : r.command.OnGraph) (aside : Aside mine s first (step E load r s).2) (inUse : 0 < u.owners s.world)
    (keeps : E.Keeps (fun call => call.Spares (u.raw s.world) ((u.index s.world).raw s.world) ∧
      call.SavesTo elsewhere) P)
    (apart : HandlesApart (step E load r s).2.world.calls)
    (saves : ∀ call ∈ (turn E load r s).calls, call.SavesTo elsewhere) (holds : P s.world.engine) :
    P (step E load r s).2.world.engine := by
  obtain ⟨new, calls, spares⟩ := aside.spares houses.kept houses.withheld inUse apart
  rw [turn_calls calls] at saves
  exact step_keeps keeps silent loads graph calls (fun call member => ⟨spares call member, saves call member⟩) holds

/-- A request on the objects in the family leaves the others as they are. -/
theorem inside (silent : Silent load) (graph : r.command.OnGraph) (inside : r.Inside (mine ·)) :
    (step E load r s).2.Houses mine u := by
  have grown := (step_stepped (E := E) silent houses.kept.sound r graph).extends
  refine ⟨houses.kept.step silent graph, houses.known.trans_le grown.units_length, fun slot o other present => ?_⟩
  have keeps : KeepsTo (mine ·) (step E load r) := step_keepsTo inside.slots
  rw [keeps.find? s (by simp [other])] at present
  exact houses.withheld slot o other present

end Houses

end Session

/-! ## Two sessions -/

/-- Two sessions between requests. -/
def Session.pairing (same : Matching → σ → σ → Prop) (u u' : TranslationUnit) (s t : Session σ) : Pairing σ :=
  ⟨same, u, u', s.world.calls, t.world.calls, 0 < u.owners s.world⟩

/-- What comes of a request in either session. The calls are compared when the request is on nothing but the
objects of the unit. -/
structure Matching.Turns (m : Matching) (mine : String → Bool) (turn turn' : Session.Turn) : Prop where
  request : turn.request = turn'.request
  reply : SameResult m.Replies turn.reply turn'.reply
  calls : turn.request.Inside (mine ·) → m.SameCalls turn.calls turn'.calls

/-- Turns that are the same stay so when more handles match. -/
theorem Matching.Turns.mono {m m' : Matching} (grown : m.Grows m') {turn turn' : Session.Turn}
    (turns : m.Turns mine turn turn') : m'.Turns mine turn turn' :=
  ⟨turns.request, turns.reply.imp fun _ _ => .mono grown, fun inside => (turns.calls inside).mono grown⟩

/-- The same objects are the same in worlds in which the unit is in use if they own it. -/
theorem Pairing.Objects.again {P Q : Pairing σ} {m : Matching} {o o' : Object} (unit : Q.unit = P.unit)
    (unit' : Q.unit' = P.unit') (inUse : .unit P.unit ∈ o.owners → Q.inUse) (objects : P.Objects m o o') :
    Q.Objects m o o' := by
  have cursors {c c' : Cursor} (inUse : Q.inUse) (twins : P.Cursors m c c') : Q.Cursors m c c' := by
    induction twins with
    | absent => exact .absent
    | position place known _ ih =>
      exact .position ⟨inUse, place.raw, unit ▸ place.unit, unit' ▸ place.unit', place.generation, place.plain⟩ known ih
  cases objects with
  | unit =>
    rw [← unit, ← unit']
    exact .unit (inUse (Multiset.mem_singleton_self _))
  | file files =>
    have own := inUse (by simp [Object.owners, files.unit])
    exact .file ⟨own, files.raw, unit ▸ files.unit, unit' ▸ files.unit'⟩
  | @cursor c c' twins =>
    rcases twins.unit with ⟨rfl, rfl⟩ | ⟨-, here, -⟩
    · exact .cursor .absent
    · refine .cursor (cursors (inUse ?_) twins)
      simp [Object.owners, Cursor.owners_eq, here]
  | cursors twins =>
    have own := inUse (by simp [Object.owners, twins.unit])
    exact .cursors ⟨own, unit ▸ twins.unit, unit' ▸ twins.unit', twins.generation, twins.source⟩

namespace Session

variable {same : Matching → σ → σ → Prop} {u u' : TranslationUnit} {m m' : Matching} {s t s' t' : Session σ}
  {r : Request}

/-- Sessions that house a unit in the same slots and agree on it. -/
structure Parallel (same : Matching → σ → σ → Prop) (mine : String → Bool) (u u' : TranslationUnit) (m : Matching)
    (s t : Session σ) : Prop where
  houses : s.Houses mine u
  houses' : t.Houses mine u'
  owners : u.owners s.world = u'.owners t.world
  facts : 0 < u.owners s.world → (pairing same u u' s t).Facts m s.world t.world
  slots : ∀ slot, mine slot →
    Option.Rel ((pairing same u u' s t).Objects m) (s.slots.find? slot) (t.slots.find? slot)

namespace Parallel

/-- Objects that were the same are so in sessions that hold them. -/
private theorem again {P : Pairing σ} (unit : P.unit = u) (unit' : P.unit' = u') (houses : s.Houses mine u)
    (slots : ∀ slot, mine slot → Option.Rel (P.Objects m) (s.slots.find? slot) (t.slots.find? slot)) :
    ∀ slot, mine slot →
      Option.Rel ((pairing same u u' s t).Objects m) (s.slots.find? slot) (t.slots.find? slot) := by
  intro slot here
  have both := slots slot here
  cases present : s.slots.find? slot <;> cases present' : t.slots.find? slot <;> rw [present, present'] at both
  · exact .none
  · cases both
  · cases both
  · cases both with
    | some objects => exact .some (objects.again unit.symm unit'.symm fun own => houses.inUse present (unit ▸ own))

variable (parallel : Parallel same mine u u' m s t)

include parallel

private theorem left (passes : PassesBy mine u s s')
    (engines : 0 < u.owners s.world → same m s'.world.engine t.world.engine) :
    Parallel same mine u u' m s' t where
  houses := passes.houses
  houses' := parallel.houses'
  owners := passes.owners.trans parallel.owners
  facts inUse := by
    rw [passes.owners] at inUse
    have facts := parallel.facts inUse
    have leaves := passes.leaves inUse
    exact ⟨leaves.raw.trans facts.raw, facts.raw', leaves.index.trans facts.index, facts.index', leaves.indexOwned,
      facts.indexOwned', leaves.generation.trans facts.generation, engines inUse⟩
  slots := by
    refine again (P := pairing same u u' s t) rfl rfl passes.houses fun slot here => ?_
    rw [passes.slots slot here]
    exact parallel.slots slot here

private theorem right (passes : PassesBy mine u' t t')
    (engines : 0 < u.owners s.world → same m s.world.engine t'.world.engine) :
    Parallel same mine u u' m s t' where
  houses := parallel.houses
  houses' := passes.houses
  owners := parallel.owners.trans passes.owners.symm
  facts inUse := by
    have facts := parallel.facts inUse
    have leaves := passes.leaves (parallel.owners ▸ inUse)
    exact ⟨facts.raw, leaves.raw.trans facts.raw', facts.index, leaves.index.trans facts.index', facts.indexOwned,
      leaves.indexOwned, facts.generation.trans leaves.generation.symm, engines inUse⟩
  slots := by
    refine again (P := pairing same u u' s t) rfl rfl parallel.houses fun slot here => ?_
    rw [passes.slots slot here]
    exact parallel.slots slot here

variable (isolated : Isolated E elsewhere same) (loads : LoadsApart same load)

include isolated loads

/-- Nothing that is done besides the family in one session makes a difference. -/
theorem left_step {first : Books × Multiset Owner} (graph : r.command.OnGraph)
    (aside : Aside mine s first (step E load r s).2) (apart : HandlesApart (step E load r s).2.world.calls)
    (saves : ∀ call ∈ (turn E load r s).calls, call.SavesTo elsewhere) :
    Parallel same mine u u' m (step E load r s).2 t := by
  refine parallel.left (parallel.houses.passes loads.silent graph aside) fun inUse => ?_
  have facts := parallel.facts inUse
  have keeps : E.Keeps (fun call => call.Spares (u.raw s.world) ((u.index s.world).raw s.world) ∧
      call.SavesTo elsewhere) fun e => same m e t.world.engine := by
    rw [show u.raw s.world = _ from facts.raw, show (u.index s.world).raw s.world = _ from facts.index]
    exact ⟨fun granted alike => isolated.left alike granted.1 granted.2, fun _ alike => isolated.left_walk alike⟩
  exact parallel.houses.keeps loads.silent (fun _ => loads.left) graph aside inUse keeps apart saves facts.engines

/-- A request that is not about the unit leaves the sessions parallel, here in the second one. -/
theorem right_step {first : Books × Multiset Owner} (graph : r.command.OnGraph)
    (aside : Aside mine t first (step E load r t).2) (apart : HandlesApart (step E load r t).2.world.calls)
    (saves : ∀ call ∈ (turn E load r t).calls, call.SavesTo elsewhere) :
    Parallel same mine u u' m s (step E load r t).2 := by
  refine parallel.right (parallel.houses'.passes loads.silent graph aside) fun inUse => ?_
  have facts := parallel.facts inUse
  have keeps : E.Keeps (fun call => call.Spares (u'.raw t.world) ((u'.index t.world).raw t.world) ∧
      call.SavesTo elsewhere) fun e => same m s.world.engine e := by
    rw [show u'.raw t.world = _ from facts.raw', show (u'.index t.world).raw t.world = _ from facts.index']
    exact ⟨fun granted alike => isolated.right alike granted.1 granted.2, fun _ alike => isolated.right_walk alike⟩
  exact parallel.houses'.keeps loads.silent (fun _ => loads.right) graph aside (parallel.owners ▸ inUse) keeps apart
    saves facts.engines

/-- A request on the objects of the unit comes to the same in both sessions. -/
theorem inside_step (graph : r.command.OnGraph) (inside : r.Inside (mine ·)) :
    ∃ m', m.Grows m' ∧ Parallel same mine u u' m' (step E load r s).2 (step E load r t).2 ∧
      m'.Turns mine (turn E load r s) (turn E load r t) := by
  have sessions : (pairing same u u' s t).Sessions (mine ·) (pairing same u u' s t).Working m s t := by
    refine ⟨⟨⟨parallel.owners, parallel.facts, [], [], ?_, ?_, .nil⟩, id⟩, parallel.slots⟩
    · exact (List.append_nil _).symm
    · exact (List.append_nil _).symm
  have isolated : Isolated E elsewhere (pairing same u u' s t).same := isolated
  have twins : Twinned m _ _ _ (step E load r) (step E load r) := isolated.request inside
  obtain ⟨m', grown, ⟨joined, slots⟩, reply⟩ := twins.together (.refl m) sessions
  have houses := parallel.houses.inside (E := E) loads.silent graph inside
  have houses' := parallel.houses'.inside (E := E) loads.silent graph inside
  refine ⟨m', grown, ⟨houses, houses', joined.owners, fun inUse => ?_, again rfl rfl houses slots⟩,
    rfl, reply, fun _ => ?_⟩
  · obtain ⟨raw, raw', index, index', owned, owned', generation, engines⟩ := joined.facts inUse
    exact ⟨raw, raw', index, index', owned, owned', generation, engines⟩
  · obtain ⟨new, new', calls, calls', alike⟩ := joined.calls
    rw [turn_calls calls, turn_calls calls']
    exact alike

omit isolated loads in
/-- The same index is lent in both sessions. -/
theorem lends_reply (lends : r.Lends mine) :
    SameResult m.Replies (step E load r s).1 (step E load r t).1 := by
  obtain @⟨on, into, here, -⟩ := lends
  rw [step_lends, step_lends]
  have both := parallel.slots on here
  revert both
  generalize s.slots.find? on = found
  generalize t.slots.find? on = found'
  intro both
  cases both with
  | none => exact .error _
  | some objects =>
    cases objects with
    | unit inUse =>
      have facts := parallel.facts inUse
      refine .ok ?_
      rw [facts.index, facts.index']
      exact .index
    | _ => exact .error _

/-- So does a request that lends the index, but for what is let go of to keep the index. -/
theorem lends_step (lends : r.Lends mine) (apart : HandlesApart (step E load r s).2.world.calls)
    (apart' : HandlesApart (step E load r t).2.world.calls)
    (saves : ∀ call ∈ (turn E load r s).calls, call.SavesTo elsewhere)
    (saves' : ∀ call ∈ (turn E load r t).calls, call.SavesTo elsewhere) :
    Parallel same mine u u' m (step E load r s).2 (step E load r t).2 ∧
      m.Turns mine (turn E load r s) (turn E load r t) := by
  have graph : r.command.OnGraph := by
    cases lends
    trivial
  obtain ⟨first, aside⟩ : ∃ first, Aside mine s first (step E load r s).2 := lend_aside parallel.houses.kept lends
  obtain ⟨first', aside'⟩ : ∃ first, Aside mine t first (step E load r t).2 := lend_aside parallel.houses'.kept lends
  have one := parallel.left_step isolated loads graph aside apart saves
  refine ⟨one.right_step isolated loads graph aside' apart' saves', rfl, parallel.lends_reply lends, fun inside => ?_⟩
  cases lends
  exact inside.opensNothing.elim

end Parallel

end Session

end HandleGraph
