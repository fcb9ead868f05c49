import HandleGraph.Session.Step
import HandleGraph.Proofs.LockstepSessions

/-! # Requests keep to the slots that they name

Two sessions over one world that agree in some slots go on agreeing in these slots and over one world, as
long as requests name no others. What the two hold elsewhere is neither looked at nor touched.
-/

namespace HandleGraph

def Command.slots : Command → List String
  | .createIndex _ | .ofSource .. | .ofAstFile _ | .nullCursor => []
  | .parse on .. | .read on _ | .unitIndex on | .unitSpelling on | .generation on | .root on | .getFile on _
  | .reparse on .. | .save on _ | .fileName on | .fileTime on | .fileDisplay on | .fileUnit on | .access on _
  | .each on _ | .collect on | .clone on | .drop on | .describe on | .readNullString on => [on]
  | .ask on _ => [on.slot]
  | .equal a b => [a.slot, b.slot]
  | .same a b => [a, b]

def Request.slots (r : Request) : List String := r.into.toList ++ r.command.slots

variable {σ α β : Type} {E : Engine σ} {load : Loading σ Unit} {named : String → Prop}

/-- Sessions over one world that agree in the named slots. Elsewhere they hold what they hold. -/
structure Session.Agrees (named : String → Prop) (elsewhere elsewhere' : String → Option Object)
    (s t : Session σ) : Prop where
  world : s.world = t.world
  here : ∀ slot, named slot → s.slots.find? slot = t.slots.find? slot
  left : ∀ slot, ¬named slot → s.slots.find? slot = elsewhere slot
  right : ∀ slot, ¬named slot → t.slots.find? slot = elsewhere' slot

/-- Work that does the same in sessions that agree, which go on agreeing. -/
structure KeepsTo (named : String → Prop) (work : StateM (Session σ) α) : Prop where
  same : ∀ {elsewhere elsewhere' : String → Option Object} {s t : Session σ},
    s.Agrees named elsewhere elsewhere' t →
    (work s).1 = (work t).1 ∧ (work s).2.Agrees named elsewhere elsewhere' (work t).2

namespace Session.Agrees

variable {elsewhere elsewhere' : String → Option Object} {s t : Session σ}

/-- Both worlds go on in the same way. -/
theorem onWorld (agree : s.Agrees named elsewhere elsewhere' t) {w v : World σ} (same : w = v) :
    Agrees named elsewhere elsewhere' ⟨w, s.slots⟩ ⟨v, t.slots⟩ :=
  ⟨same, agree.here, agree.left, agree.right⟩

private theorem insert (agree : s.Agrees named elsewhere elsewhere' t) {slot : String} (mine : named slot)
    (o : Object) :
    Agrees named elsewhere elsewhere' ⟨s.world, s.slots.insert slot o⟩ ⟨t.world, t.slots.insert slot o⟩ where
  world := agree.world
  here other theirs := by rw [SlotMap.find?_insert, SlotMap.find?_insert, agree.here other theirs]
  left other theirs := by
    rw [SlotMap.find?_insert, if_neg fun same : other = slot => theirs (same ▸ mine), agree.left other theirs]
  right other theirs := by
    rw [SlotMap.find?_insert, if_neg fun same : other = slot => theirs (same ▸ mine), agree.right other theirs]

private theorem erase (agree : s.Agrees named elsewhere elsewhere' t) {slot : String} (mine : named slot) :
    Agrees named elsewhere elsewhere' ⟨s.world, s.slots.erase slot⟩ ⟨t.world, t.slots.erase slot⟩ where
  world := agree.world
  here other theirs := by rw [SlotMap.find?_erase, SlotMap.find?_erase, agree.here other theirs]
  left other theirs := by
    rw [SlotMap.find?_erase, if_neg fun same : other = slot => theirs (same ▸ mine), agree.left other theirs]
  right other theirs := by
    rw [SlotMap.find?_erase, if_neg fun same : other = slot => theirs (same ▸ mine), agree.right other theirs]

end Session.Agrees

namespace KeepsTo

private theorem pure (a : α) : KeepsTo named (pure a : StateM (Session σ) α) := ⟨fun agree => ⟨rfl, agree⟩⟩

private theorem bind {work : StateM (Session σ) α} {next : α → StateM (Session σ) β} (first : KeepsTo named work)
    (goesOn : ∀ a, KeepsTo named (next a)) : KeepsTo named (work >>= next) := by
  constructor
  intro elsewhere elsewhere' s t agree
  obtain ⟨result, middle⟩ := first.same agree
  rw [bind_apply, bind_apply, ← result]
  exact (goesOn _).same middle

/-- The world and the named slots may be looked at. -/
theorem get {next : Session σ → StateM (Session σ) β}
    (blind : ∀ {s t : Session σ}, s.world = t.world →
      (∀ slot, named slot → s.slots.find? slot = t.slots.find? slot) → next s = next t)
    (goesOn : ∀ s, KeepsTo named (next s)) : KeepsTo named (MonadState.get >>= next) := by
  constructor
  intro elsewhere elsewhere' s t agree
  change (next s s).1 = (next t t).1 ∧ (next s s).2.Agrees _ _ _ (next t t).2
  rw [blind agree.world agree.here]
  exact (goesOn t).same agree

private theorem onWorld (work : Action σ α) : KeepsTo named (Session.act work) where
  same {_ _ _ _} agree :=
    ⟨congrArg (fun w => (work w).1) agree.world, agree.onWorld (congrArg (fun w => (work w).2) agree.world)⟩

private theorem next {ε : Type} {work : ExceptT ε (StateM (Session σ)) α}
    {next : α → ExceptT ε (StateM (Session σ)) β} (first : KeepsTo named work.run)
    (goesOn : ∀ a, KeepsTo named (next a).run) : KeepsTo named (work >>= next).run := by
  rw [ExceptT.run_bind]
  refine first.bind fun result => ?_
  cases result with
  | error e => exact pure _
  | ok a => exact goesOn a

private theorem read {next : Session σ → Job σ β}
    (blind : ∀ {s t : Session σ}, s.world = t.world →
      (∀ slot, named slot → s.slots.find? slot = t.slots.find? slot) → next s = next t)
    (goesOn : ∀ s, KeepsTo named (next s).run) : KeepsTo named (MonadState.get >>= next).run :=
  show KeepsTo named (MonadState.get >>= fun s => (next s).run) from
    get (fun world here => congrArg ExceptT.run (blind world here)) goesOn

private theorem act (work : Action σ α) : KeepsTo named (Job.act work).run :=
  (onWorld work).bind fun a => pure (Except.ok a)

private theorem attempt (work : Attempt σ α) : KeepsTo named (Job.attempt work).run :=
  (onWorld work.run).bind fun result => pure (result.mapError Fault.failed)

private theorem loading (loading : Loading σ Unit) : KeepsTo named (Job.load loading).run :=
  (onWorld loading.run).bind fun result => pure (result.mapError LoadFault.fault)

private theorem held {slot : String} (mine : named slot) (pick : Object → Option α) :
    KeepsTo named (Job.held slot pick : Job σ α).run := by
  constructor
  intro elsewhere elsewhere' s t agree
  rw [Job.held_apply, Job.held_apply, agree.here slot mine]
  exact ⟨rfl, agree⟩

private theorem present (o : Object) : KeepsTo named (Job.present o : Job σ Outcome).run :=
  read (fun world _ => by rw [world]) fun s => pure (Except.ok (Outcome.of o s.world))

private theorem inspect {ref : CursorRef} (mine : named ref.slot) (work : Inspect σ α) :
    KeepsTo named (Job.inspect E ref work).run := by
  refine (held mine Object.cursor?).next fun c => ⟨?_⟩
  rintro elsewhere elsewhere' ⟨w, slots⟩ ⟨_, slots'⟩ agree
  obtain rfl : w = _ := agree.world
  exact ⟨rfl, (agree.onWorld rfl).insert mine _⟩

private theorem erase {slot : String} (mine : named slot) :
    KeepsTo named (modify fun s : Session σ => { s with slots := s.slots.erase slot } : Job σ PUnit).run :=
  ⟨fun agree => ⟨rfl, agree.erase mine⟩⟩

private theorem making {γ : Type} (wrap : γ → Object) (work : Attempt σ γ) :
    KeepsTo named (do Job.present (wrap (← Job.attempt work)) : Job σ Outcome).run :=
  (attempt work).next fun a => present (wrap a)

end KeepsTo

/-- A command looks at the slots that it names and touches no others. -/
theorem Command.run_keepsTo {c : Command} (mine : ∀ slot ∈ c.slots, named slot) :
    KeepsTo named (c.run E load).run := by
  have ok {s : Outcome} : KeepsTo named (Pure.pure s : Job σ Outcome).run := .pure (Except.ok s)
  cases c with
  | createIndex options => exact (KeepsTo.loading load).next fun _ => .making .index _
  | parse on path args unsaved options => exact (KeepsTo.held (mine on (.head _)) _).next fun i => .making .unit _
  | read on path => exact (KeepsTo.held (mine on (.head _)) _).next fun i => .making .unit _
  | ofSource path args unsaved options => exact (KeepsTo.loading load).next fun _ => .making .unit _
  | ofAstFile path => exact (KeepsTo.loading load).next fun _ => .making .unit _
  | unitIndex on =>
    refine (KeepsTo.held (mine on (.head _)) _).next fun u => ?_
    refine KeepsTo.read (fun world _ => by rw [world]) fun s => ?_
    exact (KeepsTo.act (u.index s.world).clone).next fun i => .present (.index i)
  | unitSpelling on => exact (KeepsTo.held (mine on (.head _)) _).next fun u => (KeepsTo.attempt _).next fun _ => ok
  | generation on =>
    exact (KeepsTo.held (mine on (.head _)) _).next fun u => KeepsTo.read (fun world _ => by rw [world]) fun s => ok
  | root on => exact (KeepsTo.held (mine on (.head _)) _).next fun u => .making .cursor _
  | getFile on path => exact (KeepsTo.held (mine on (.head _)) _).next fun u => .making .file _
  | reparse on unsaved options =>
    exact (KeepsTo.held (mine on (.head _)) _).next fun u => (KeepsTo.attempt _).next fun _ => ok
  | save on path => exact (KeepsTo.held (mine on (.head _)) _).next fun u => (KeepsTo.attempt _).next fun _ => ok
  | fileName on => exact (KeepsTo.held (mine on (.head _)) _).next fun f => (KeepsTo.attempt _).next fun _ => ok
  | fileTime on => exact (KeepsTo.held (mine on (.head _)) _).next fun f => (KeepsTo.act _).next fun _ => ok
  | fileDisplay on => exact (KeepsTo.held (mine on (.head _)) _).next fun f => (KeepsTo.act _).next fun _ => ok
  | fileUnit on =>
    exact (KeepsTo.held (mine on (.head _)) _).next fun f => (KeepsTo.act _).next fun u => .present (.unit u)
  | nullCursor => exact .present (.cursor .null)
  | ask on question => exact .inspect (mine on.slot (.head _)) _
  | equal a b =>
    refine (KeepsTo.inspect (mine a.slot (.head _)) _).next fun first => ?_
    refine (KeepsTo.inspect (mine b.slot (.tail _ (.head _))) _).next fun second => ?_
    exact (KeepsTo.act (first.equal E second)).next fun _ => ok
  | access on element => exact (KeepsTo.held (mine on (.head _)) _).next fun s => .making .cursor _
  | each on side =>
    refine (KeepsTo.held (mine on (.head _)) _).next fun s => (KeepsTo.act _).next fun elements => ?_
    exact KeepsTo.read (fun world _ => by simp only [world]) fun s => (KeepsTo.act _).next fun _ => ok
  | collect on =>
    refine (KeepsTo.held (mine on (.head _)) _).next fun s => (KeepsTo.attempt _).next fun cursors => ?_
    exact KeepsTo.read (fun world _ => by simp only [world]) fun s => (KeepsTo.act _).next fun _ => ok
  | clone on => exact (KeepsTo.held (mine on (.head _)) _).next fun copy => (KeepsTo.act copy).next fun _ => ok
  | drop on =>
    have here : named on := mine on (.head _)
    refine KeepsTo.read (fun _ slots => by simp only [slots on here]) fun s => ?_
    cases s.slots.find? on with
    | none => exact ok
    | some o => exact (KeepsTo.erase here).next fun _ => (KeepsTo.act (o.drop E)).next fun _ => ok
  | same a b =>
    refine (KeepsTo.held (mine a (.head _)) _).next fun first => ?_
    exact (KeepsTo.held (mine b (.tail _ (.head _))) first.same?).next fun _ => ok
  | describe on => exact (KeepsTo.held (mine on (.head _)) _).next fun o => (KeepsTo.act _).next fun _ => ok
  | readNullString on => exact (KeepsTo.held (mine on (.head _)) _).next fun _ => (KeepsTo.act _).next fun _ => ok

namespace Session

/-- Storing touches the slot it stores in, and no other. -/
theorem keep_keepsTo {into : Option String} (mine : ∀ slot ∈ into, named slot) (o : Object) :
    KeepsTo named (keep E into o) := by
  cases into with
  | none => exact .onWorld (o.drop E)
  | some slot =>
    constructor
    rintro elsewhere elsewhere' ⟨w, slots⟩ ⟨_, slots'⟩ agree
    obtain rfl : w = _ := agree.world
    rw [keep_some, keep_some, show slots.find? slot = slots'.find? slot from agree.here slot (mine slot rfl)]
    exact ⟨rfl, (agree.onWorld rfl).insert (mine slot rfl) o⟩

/-- So does a request. -/
theorem step_keepsTo {r : Request} (mine : ∀ slot ∈ r.slots, named slot) : KeepsTo named (step E load r) := by
  refine (Command.run_keepsTo fun slot member => mine slot (List.mem_append_right _ member)).bind fun result => ?_
  cases result with
  | error fault => exact .pure _
  | ok outcome =>
    obtain ⟨reply, made⟩ := outcome
    cases made with
    | none => exact .pure _
    | some o =>
      refine (keep_keepsTo (fun slot member => mine slot (List.mem_append_left _ ?_)) o).bind fun _ => .pure _
      simpa using member

end Session

/-- What the other slots hold stays as it is. -/
theorem KeepsTo.find? {work : StateM (Session σ) α} (keeps : KeepsTo named work) (s : Session σ) {slot : String}
    (theirs : ¬named slot) : (work s).2.slots.find? slot = s.slots.find? slot :=
  have agree : s.Agrees named s.slots.find? s.slots.find? s :=
    ⟨rfl, fun _ _ => rfl, fun _ _ => rfl, fun _ _ => rfl⟩
  (keeps.same agree).2.left slot theirs

/-! ## A session without some of its slots -/

/-- The slots with some names alone. -/
def SlotMap.only (m : SlotMap α) (named : String → Bool) : SlotMap α := ⟨m.entries.filter (named ·.1)⟩

namespace SlotMap

variable {named : String → Bool}

theorem find?_only (m : SlotMap α) (slot : String) :
    (m.only named).find? slot = if named slot then m.find? slot else none := by
  obtain ⟨entries⟩ := m
  change (entries.filter (named ·.1)).lookup slot = if named slot then entries.lookup slot else none
  induction entries with
  | nil => simp
  | cons entry rest ih =>
    obtain ⟨key, held⟩ := entry
    rw [List.filter_cons, lookup_cons_if]
    by_cases here : slot = key
    · subst here
      by_cases chosen : named slot = true
      · rw [if_pos chosen, if_pos chosen, lookup_cons_if, if_pos rfl, if_pos rfl]
      · rw [if_neg chosen, ih, if_neg chosen, if_neg chosen]
    · rw [if_neg here, ← ih]
      split_ifs
      · rw [lookup_cons_if, if_neg here]
      · rfl

private theorem Ordered.only {m : SlotMap α} (ordered : m.Ordered) : (m.only named).Ordered :=
  List.Pairwise.filter _ ordered

/-- The owners in the named slots and those in the others are all that there are. -/
theorem owners_only (m : SlotMap Object) (named : String → Bool) :
    (m.only named).owners + (m.only (!named ·)).owners = m.owners := by
  have parted := List.filter_append_perm (fun entry : String × Object => named entry.1) m.entries
  have sums := ((parted.map (·.2)).map Object.owners).sum_eq
  simpa [owners, values, SlotMap.only] using sums

end SlotMap

namespace Session

variable {named : String → Bool}

/-- The session with the objects in some slots alone. -/
def only (named : String → Bool) (s : Session σ) : Session σ := ⟨s.world, s.slots.only named⟩

theorem Sound.only {s : Session σ} (sound : s.Sound) (named : String → Bool) : (s.only named).Sound where
  ordered := sound.ordered.only
  objects slot o present := by
    rw [Session.only, SlotMap.find?_only] at present
    split_ifs at present
    exact sound.objects slot o present

end Session

/-- Work does the same without the slots that it does not name. -/
theorem KeepsTo.only {named : String → Bool} {work : StateM (Session σ) α} (keeps : KeepsTo (named ·) work)
    (s : Session σ) : (work (s.only named)).2.world = (work s).2.world ∧
      ∀ slot, (work (s.only named)).2.slots.find? slot =
        if named slot then (work s).2.slots.find? slot else none := by
  have agree : s.Agrees (named ·) s.slots.find? (fun _ => none) (s.only named) := by
    refine ⟨rfl, fun slot chosen => ?_, fun _ _ => rfl, fun slot other => ?_⟩
    · rw [Session.only, SlotMap.find?_only, if_pos chosen]
    · rw [Session.only, SlotMap.find?_only, if_neg other]
  obtain ⟨world, here, -, right⟩ := (keeps.same agree).2
  refine ⟨world.symm, fun slot => ?_⟩
  split_ifs with chosen
  · exact (here slot chosen).symm
  · exact right slot chosen

end HandleGraph
