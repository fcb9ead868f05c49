import HandleGraph.Proofs.ShadowSessions
import HandleGraph.Proofs.TwinQuestions

/-! # Sessions of twins

Two sessions hold twin objects of one unit in the slots of a family. Whatever is done with these objects comes
to the same in both sessions and makes twin objects again. What else the sessions hold makes no difference.

Letting go of objects may be the end of the unit. So worlds that are known to have the unit in use go before a
request, and worlds that agree on whether they have are left after it.
-/

namespace HandleGraph

variable {σ α β : Type}

private theorem SameResult.mapError {ε ε' : Type} {R : α → β → Prop} (f : ε → ε') {r : Except ε α} {r' : Except ε β}
    (same : SameResult R r r') : SameResult R (r.mapError f) (r'.mapError f) := by
  cases same with
  | ok matched => exact .ok matched
  | error e => exact .error (f e)

/-- Sessions with twin objects in the slots of a family. -/
structure Pairing.Sessions (P : Pairing σ) (mine : String → Prop) (worlds : Matching → World σ → World σ → Prop)
    (m : Matching) (s t : Session σ) : Prop where
  worlds : worlds m s.world t.world
  slots : ∀ slot, mine slot → Option.Rel (P.Objects m) (s.slots.find? slot) (t.slots.find? slot)

/-- Neither an index nor a unit is opened by the command, and no index is handed out. -/
def Command.OpensNothing : Command → Prop
  | .createIndex _ | .ofSource .. | .ofAstFile _ | .unitIndex _ => False
  | _ => True

/-- A request on the objects in a family of slots. -/
structure Request.Inside (mine : String → Prop) (r : Request) : Prop where
  slots : ∀ slot ∈ r.slots, mine slot
  opensNothing : r.command.OpensNothing

private theorem rel_mono {R S : Object → Object → Prop} (implies : ∀ o o', R o o' → S o o') {o o' : Option Object}
    (related : Option.Rel R o o') : Option.Rel S o o' := by
  cases related with
  | none => exact .none
  | some related => exact .some (implies _ _ related)

namespace Pairing.Sessions

variable {P : Pairing σ} {mine : String → Prop} {worlds worlds' : Matching → World σ → World σ → Prop}
  {m m' : Matching} {s t : Session σ}

/-- What happens in the worlds alone. -/
theorem onWorlds (sessions : P.Sessions mine worlds m s t) (grown : m.Grows m') {w v : World σ}
    (after : worlds' m' w v) : P.Sessions mine worlds' m' { s with world := w } { t with world := v } :=
  ⟨after, fun slot here => rel_mono (fun _ _ objects => objects.mono grown) (sessions.slots slot here)⟩

private theorem joined (sessions : P.Sessions mine P.Working m s t) : P.Sessions mine P.Joined m s t :=
  ⟨sessions.worlds.toJoined, sessions.slots⟩

private theorem insert (sessions : P.Sessions mine worlds m s t) (slot : String) {o o' : Object}
    (objects : P.Objects m o o') :
    P.Sessions mine worlds m { s with slots := s.slots.insert slot o } { t with slots := t.slots.insert slot o' } where
  worlds := sessions.worlds
  slots other here := by
    simp only [SlotMap.find?_insert]
    split_ifs
    · exact .some objects
    · exact sessions.slots other here

private theorem erase (sessions : P.Sessions mine worlds m s t) (slot : String) :
    P.Sessions mine worlds m { s with slots := s.slots.erase slot } { t with slots := t.slots.erase slot } where
  worlds := sessions.worlds
  slots other here := by
    simp only [SlotMap.find?_erase]
    split_ifs
    · exact .none
    · exact sessions.slots other here

end Pairing.Sessions

/-! ## Jobs -/

namespace Twinned

variable {P : Pairing σ} {mine : String → Prop} {m : Matching}
  {pre post worlds worlds' : Matching → World σ → World σ → Prop} {good : Matching → α → β → Prop}

private theorem onWorld {work : Action σ α} {other : Action σ β} (twins : Twinned m worlds worlds' good work other) :
    Twinned m (P.Sessions mine worlds) (P.Sessions mine worlds') good (Session.act work) (Session.act other) := by
  refine ⟨fun grown sessions => ?_⟩
  obtain ⟨m₂, grown', after, matched⟩ := twins.together grown sessions.worlds
  exact ⟨m₂, grown', sessions.onWorlds grown' after, matched⟩

private theorem act {work : Action σ α} {other : Action σ β} (twins : Twinned m worlds worlds' good work other) :
    Twinned m (P.Sessions mine worlds) (P.Sessions mine worlds') (fun m => SameResult (good m)) (Job.act work).run
      (Job.act other).run :=
  (onWorld twins).map fun _ _ _ _ matched => .ok matched

private theorem attempt {work : Attempt σ α} {other : Attempt σ β}
    (twins : Twinned m worlds worlds' (fun m => SameResult (good m)) work.run other.run) :
    Twinned m (P.Sessions mine worlds) (P.Sessions mine worlds') (fun m => SameResult (good m)) (Job.attempt work).run
      (Job.attempt other).run :=
  (onWorld twins).map fun _ _ _ _ matched => matched.mapError _

/-- The last work goes from one kind of states to another. Failures before it stay in the first kind. -/
theorem last {S T ε α' β' : Type} {pre post : Matching → S → T → Prop} {good' : Matching → α' → β' → Prop}
    {work : ExceptT ε (StateM S) α} {other : ExceptT ε (StateM T) β} {next : α → ExceptT ε (StateM S) α'}
    {next' : β → ExceptT ε (StateM T) β'} (weaker : ∀ {m s t}, pre m s t → post m s t)
    (first : Twinned m pre pre (fun m => SameResult (good m)) work.run other.run)
    (goesOn : ∀ m₁ a b, m.Grows m₁ → good m₁ a b →
      Twinned m₁ pre post (fun m => SameResult (good' m)) (next a).run (next' b).run) :
    Twinned m pre post (fun m => SameResult (good' m)) (work >>= next).run (other >>= next').run := by
  rw [ExceptT.run_bind, ExceptT.run_bind]
  refine first.bind fun m₁ result result' grown matched => ?_
  cases matched with
  | error e => exact (throw e).states id weaker
  | ok matched => exact goesOn m₁ _ _ grown matched

/-- Work after which nothing but an answer is left. -/
theorem answering {S T ε α' β' : Type} {pre post : Matching → S → T → Prop} {good' : Matching → α' → β' → Prop}
    {work : ExceptT ε (StateM S) α} {other : ExceptT ε (StateM T) β} {answer : α → α'} {answer' : β → β'}
    (first : Twinned m pre post (fun m => SameResult (good m)) work.run other.run)
    (goesOn : ∀ m₁ a b, m.Grows m₁ → good m₁ a b → good' m₁ (answer a) (answer' b)) :
    Twinned m pre post (fun m => SameResult (good' m)) (work >>= fun a => Pure.pure (answer a)).run
      (other >>= fun b => Pure.pure (answer' b)).run := by
  rw [ExceptT.run_bind, ExceptT.run_bind]
  refine ⟨fun grown here => ?_⟩
  obtain ⟨m₂, grown', after, matched⟩ := first.together grown here
  rw [bind_apply, bind_apply]
  generalize work.run _ = found at after matched ⊢
  generalize other.run _ = found' at after matched ⊢
  obtain ⟨result, s⟩ := found
  obtain ⟨result', t⟩ := found'
  cases matched with
  | error e => exact ⟨m₂, grown', after, .error e⟩
  | ok matched => exact ⟨m₂, grown', after, .ok (goesOn m₂ _ _ (grown.trans grown') matched)⟩

/-- Twins are picked from a slot of the family, or the slot is misused in both sessions. -/
theorem held {pick : Object → Option α} {pick' : Object → Option β} {slot : String} (here : mine slot)
    (picks : ∀ m₁ o o', m.Grows m₁ → P.Objects m₁ o o' → Option.Rel (good m₁) (pick o) (pick' o')) :
    Twinned m (P.Sessions mine worlds) (P.Sessions mine worlds) (fun m => SameResult (good m))
      (Job.held slot pick : Job σ α).run (Job.held slot pick' : Job σ β).run := by
  refine ⟨fun {m₁ s t} grown sessions => ⟨m₁, .refl m₁, ?_⟩⟩
  have both := sessions.slots slot here
  change P.Sessions mine worlds m₁ ((Job.held slot pick).run s).2 ((Job.held slot pick').run t).2 ∧
    SameResult (good m₁) ((Job.held slot pick).run s).1 ((Job.held slot pick').run t).1
  rw [Job.held_apply, Job.held_apply]
  refine ⟨sessions, ?_⟩
  generalize s.slots.find? slot = found at both ⊢
  generalize t.slots.find? slot = found' at both ⊢
  cases both with
  | none => exact .error _
  | @some o o' objects =>
    have picked := picks m₁ o o' grown objects
    rw [Option.bind_eq_bind, Option.bind_eq_bind, Option.bind_some, Option.bind_some]
    generalize pick o = a at picked ⊢
    generalize pick' o' = b at picked ⊢
    cases picked with
    | none => exact .error _
    | some matched => exact .ok matched

private theorem present {o o' : Object} (objects : P.Objects m o o') :
    Twinned m (P.Sessions mine P.Working) (P.Sessions mine P.Working) (fun m => SameResult (P.Outcomes m))
      (Job.present o : Job σ Outcome).run (Job.present o' : Job σ Outcome).run :=
  .read fun _ _ _ grown sessions => .ok fun _ grown' => ((objects.mono grown).outcome sessions.worlds).mono grown'

/-- An object is made and answered with. -/
theorem making {wrap : α → Object} {work other : Attempt σ α} {good : Matching → α → α → Prop}
    (twins : Twinned m P.Working P.Working (fun m => SameResult (good m)) work.run other.run)
    (objects : ∀ m a a', good m a a' → P.Objects m (wrap a) (wrap a')) :
    Twinned m (P.Sessions mine P.Working) (P.Sessions mine P.Working) (fun m => SameResult (P.Outcomes m))
      (do Job.present (wrap (← Job.attempt work)) : Job σ Outcome).run
      (do Job.present (wrap (← Job.attempt other)) : Job σ Outcome).run :=
  (attempt twins).next fun _ _ _ _ matched => present (objects _ _ _ matched)

/-- Whatever goes on with the unit goes on with the unit of the twins. -/
theorem units {slot : String} (here : mine slot) {next next' : TranslationUnit → Job σ Outcome}
    (goesOn : ∀ m₁, P.inUse → Twinned m₁ (P.Sessions mine worlds) (P.Sessions mine worlds)
      (fun m => SameResult (P.Outcomes m)) (next P.unit).run (next' P.unit').run) :
    Twinned m (P.Sessions mine worlds) (P.Sessions mine worlds) (fun m => SameResult (P.Outcomes m))
      (Job.held slot Object.unit? >>= next).run (Job.held slot Object.unit? >>= next').run := by
  have picked : Twinned m (P.Sessions mine worlds) (P.Sessions mine worlds)
      (fun _ => SameResult fun u u' => P.inUse ∧ u = P.unit ∧ u' = P.unit') (Job.held slot Object.unit? : Job σ _).run
      (Job.held slot Object.unit? : Job σ _).run :=
    held here fun m₁ o o' _ objects => by
      cases objects with
      | unit inUse => exact .some ⟨inUse, rfl, rfl⟩
      | _ => exact .none
  refine picked.next fun m₁ u u' _ same => ?_
  obtain ⟨inUse, rfl, rfl⟩ := same
  exact goesOn m₁ inUse

private theorem files {slot : String} (here : mine slot) :
    Twinned m (P.Sessions mine worlds) (P.Sessions mine worlds) (fun m => SameResult (P.Files m))
      (Job.held slot Object.file? : Job σ _).run (Job.held slot Object.file? : Job σ _).run :=
  held here fun m₁ o o' _ objects => by
    cases objects with
    | file files => exact .some files
    | _ => exact .none

private theorem cursors {slot : String} (here : mine slot) :
    Twinned m (P.Sessions mine worlds) (P.Sessions mine worlds) (fun m => SameResult (P.Cursors m))
      (Job.held slot Object.cursor? : Job σ _).run (Job.held slot Object.cursor? : Job σ _).run :=
  held here fun m₁ o o' _ objects => by
    cases objects with
    | cursor twins => exact .some twins
    | _ => exact .none

private theorem sequences {slot : String} (here : mine slot) :
    Twinned m (P.Sessions mine worlds) (P.Sessions mine worlds) (fun m => SameResult (P.Sequences m))
      (Job.held slot Object.cursors? : Job σ _).run (Job.held slot Object.cursors? : Job σ _).run :=
  held here fun m₁ o o' _ objects => by
    cases objects with
    | cursors twins => exact .some twins
    | _ => exact .none

/-- No index is among the objects of the unit. -/
theorem indexes {slot : String} (here : mine slot) :
    Twinned m (P.Sessions mine worlds) (P.Sessions mine worlds) (fun _ => SameResult fun _ _ => False)
      (Job.held slot Object.index? : Job σ _).run (Job.held slot Object.index? : Job σ _).run :=
  held here fun m₁ o o' _ objects => by cases objects <;> exact .none

private theorem erase (slot : String) :
    Twinned m (P.Sessions mine worlds) (P.Sessions mine worlds) (fun _ => SameResult fun _ _ => True)
      (modify fun s : Session σ => { s with slots := s.slots.erase slot } : Job σ PUnit).run
      (modify fun s : Session σ => { s with slots := s.slots.erase slot } : Job σ PUnit).run :=
  ⟨fun {m₁ _ _} _ sessions => ⟨m₁, .refl m₁, sessions.erase slot, .ok trivial⟩⟩

private theorem letGo {E : Engine σ} {o o' : Object} (objects : P.Objects m o o') :
    Twinned m (P.Sessions mine P.Working) (P.Sessions mine P.Joined) (fun _ => SameResult fun _ _ => True)
      (Job.act (o.drop E)).run (Job.act (o'.drop E)).run :=
  (act objects.drop).states (fun working => working.joined) id

private theorem inspect {E : Engine σ} {elsewhere : CString → Prop} (isolated : Isolated E elsewhere P.same)
    {ref : CursorRef}
    (here : mine ref.slot) {good : Matching → α → α → Prop} {work : Inspect σ α}
    (twins : ∀ m, Twinned m P.Focused P.Focused (fun m => SameResult (good m)) work.run work.run) :
    Twinned m (P.Sessions mine P.Working) (P.Sessions mine P.Working) (fun m => SameResult (good m))
      (Job.inspect E ref work).run (Job.inspect E ref work).run := by
  refine (cursors here).next fun m₁ c c' _ both => ⟨fun {m₂ s t} grown sessions => ?_⟩
  have focused : P.Focused m₂ ⟨c, s.world⟩ ⟨c', t.world⟩ := ⟨sessions.worlds, both.mono grown⟩
  obtain ⟨m₃, grown', after, same⟩ := (isolated.along ref.path twins).together (.refl m₂) focused
  exact ⟨m₃, grown', (sessions.onWorlds grown' after.world).insert ref.slot (.cursor after.cursor), same.mapError _⟩

end Twinned

/-! ## Commands -/

section Commands

variable {P : Pairing σ} {mine : String → Prop} {m : Matching} {E : Engine σ} {elsewhere : CString → Prop}
  {load : Loading σ Unit}

private theorem Pairing.Sequences.iter {s s' : CursorSequence} (twins : P.Sequences m s s') :
    (s.toSequence E).iter = (s'.toSequence E).iter := by
  have length : (s.toSequence E).length = (s'.toSequence E).length := twins.length
  simp only [Sequence.iter, length]

/-- Elements are produced, answered by and let go of. -/
theorem Twinned.consume {γ : Type} {good : Matching → γ → γ → Prop} {slot : String} (here : mine slot)
    {produce : CursorSequence → Action σ γ} {elements : γ → List Cursor} {answer : γ → World σ → Except Fault Outcome}
    (produces : ∀ {m s s'}, P.Sequences m s s' → Twinned m P.Working P.Working good (produce s) (produce s'))
    (all : ∀ {m a a'}, good m a a' → List.Forall₂ (P.Cursors m) (elements a) (elements a'))
    (answers : ∀ {m a a' w v}, good m a a' → P.Working m w v →
      SameResult (P.Outcomes m) (answer a w) (answer a' v)) :
    Twinned m (P.Sessions mine P.Working) (P.Sessions mine P.Joined) (fun m => SameResult (P.Outcomes m))
      (Session.consume E slot produce elements answer) (Session.consume E slot produce elements answer) := by
  refine ⟨fun {m₁ s t} _ sessions => ?_⟩
  have both := sessions.slots slot here
  unfold Session.consume
  dsimp only [StateT.run]
  generalize s.slots.find? slot = found at both ⊢
  generalize t.slots.find? slot = found' at both ⊢
  cases both with
  | none => exact ⟨m₁, .refl m₁, sessions.joined, .error _⟩
  | @some o o' objects =>
    cases objects with
    | @cursors q q' twins =>
      obtain ⟨m₂, grown, after, matched⟩ := (produces twins).together (.refl m₁) sessions.worlds
      have dropped : Twinned m₂ P.Joined P.Joined (fun _ _ _ => True)
          ((elements (produce q s.world).1).forM (Cursor.drop E))
          ((elements (produce q' t.world).1).forM (Cursor.drop E)) := .forM (all matched) fun _ _ twins => twins.drop
      obtain ⟨m₃, grown', left, -⟩ := dropped.together (.refl m₂) after.toJoined
      exact ⟨m₃, grown.trans grown', sessions.onWorlds (grown.trans grown') left,
        (answers matched after).imp fun _ _ outcomes => outcomes.mono grown'⟩
    | _ => exact ⟨m₁, .refl m₁, sessions.joined, .error _⟩

variable (isolated : Isolated E elsewhere P.same)

include isolated

private theorem Isolated.drain {s s' : CursorSequence} (twins : P.Sequences m s s') (side : Sequence.Side) :
    Twinned m P.Working P.Working (fun m => List.Forall₂ (SameResult (P.Cursors m)))
      ((s.toSequence E).drain side (s.toSequence E).iter) ((s'.toSequence E).drain side (s'.toSequence E).iter) := by
  rw [twins.iter]
  exact isolated.drain_go side _ _ twins

private theorem Isolated.gather {s s' : CursorSequence} (twins : P.Sequences m s s') (side : Sequence.Side) :
    Twinned m P.Working P.Working
      (fun m g g' => List.Forall₂ (P.Cursors m) g.elements g'.elements ∧ g.failure = g'.failure)
      ((s.toSequence E).gather side (s.toSequence E).iter) ((s'.toSequence E).gather side (s'.toSequence E).iter) := by
  rw [twins.iter]
  exact isolated.gather_go side _ _ twins

private theorem Isolated.each {slot : String} (here : mine slot) (side : Sequence.Side) :
    Twinned m (P.Sessions mine P.Working) (P.Sessions mine P.Joined) (fun m => SameResult (P.Outcomes m))
      ((Command.each slot side).run E load).run ((Command.each slot side).run E load).run := by
  rw [funext (Command.each_apply (E := E) slot side)]
  refine Twinned.consume here (fun twins => isolated.drain twins side) (fun all => ?_) fun all working => ?_
  · refine List.rel_filterMap (fun _ _ same => ?_) all
    cases same with
    | ok twins => exact .some twins
    | error e => exact .none
  · refine .ok ⟨.results ?_, .none⟩
    refine List.forall₂_map_left_iff.mpr (List.forall₂_map_right_iff.mpr (all.imp fun _ _ same => ?_))
    cases same with
    | ok twins => exact .ok (twins.view working)
    | error e => exact .error e

private theorem Isolated.collect {slot : String} (here : mine slot) :
    Twinned m (P.Sessions mine P.Working) (P.Sessions mine P.Joined) (fun m => SameResult (P.Outcomes m))
      ((Command.collect slot).run E load).run ((Command.collect slot).run E load).run := by
  rw [funext (Command.collect_apply (E := E) slot)]
  refine Twinned.consume here (fun twins => isolated.gather twins .front) (fun all => all.1)
    fun {m g g' w v} all working => ?_
  rw [all.2]
  cases g'.failure with
  | some e => exact .error _
  | none =>
    refine .ok ⟨.views ?_, .none⟩
    refine List.forall₂_map_left_iff.mpr (List.forall₂_map_right_iff.mpr (all.1.imp fun _ _ twins => ?_))
    exact twins.view working

private theorem Isolated.root (inUse : P.inUse) :
    Twinned m P.Working P.Working (fun m => SameResult (P.Cursors m)) (P.unit.root E).run (P.unit'.root E).run := by
  refine .read fun m₁ w v _ working => ?_
  have facts := working.fact inUse
  rw [facts.raw, facts.raw', facts.generation]
  refine (Twinned.perform (isolated.ask inUse .root)).next fun m₂ raw raw' _ matched => ?_
  rw [m₂.cursor_null matched]
  split_ifs
  · exact Pairing.tell _ _ (.throw _)
  · exact .perform (Pairing.make inUse matched _)

private theorem Isolated.fileTime {f f' : File} (files : P.Files m f f') :
    Twinned m P.Working P.Working (fun _ => Eq) (f.time E) (f'.time E) := by
  have asks : m.Asks (.fileTime f.raw) (.fileTime f'.raw) fun _ => Eq := .fileTime files.raw
  exact isolated.ask files.inUse asks

/-- The debugging texts of twins are the same, but for the handle of a unit. -/
theorem Isolated.describe {o o' : Object} (objects : P.Objects m o o') :
    Twinned m P.Working P.Working (fun m a b => m.Replies (.text a) (.text b)) (o.describe E) (o'.describe E) := by
  have same {m₁ : Matching} {a b : String} (texts : a = b) : m₁.Replies (.text a) (.text b) := texts ▸ .same trivial
  cases objects with
  | unit inUse =>
    refine .get fun m₁ w v _ working => .pure fun m₂ grown => ?_
    have facts := working.fact inUse
    change m₂.Replies (.text ((P.unit.raw w).describeUnit _)) (.text ((P.unit'.raw v).describeUnit _))
    rw [facts.raw, facts.raw', facts.generation, grown.unit, grown.unit']
    exact .described _
  | file files =>
    refine (isolated.fileDisplay files).bind fun _ text _ _ texts => .pure fun _ _ => ?_
    exact same (by rw [texts])
  | cursor twins =>
    refine .get fun m₁ w v grown working => .pure fun _ _ => same ?_
    obtain ⟨-, null, stale, -⟩ := (twins.mono grown).view working
    change Cursor.isNull _ = Cursor.isNull _ at null
    change Cursor.isStale _ w = Cursor.isStale _ v at stale
    unfold Cursor.describe
    rw [null, stale, m.cursor_kind twins.raw]
  | cursors twins =>
    refine .pure fun _ _ => same ?_
    have length : (CursorSequence.toSequence E _).length = (CursorSequence.toSequence E _).length := twins.length
    unfold Sequence.describe
    rw [length]

/-- Any command on the objects of the unit. -/
theorem Isolated.command {c : Command} (here : ∀ slot ∈ c.slots, mine slot) (nothing : c.OpensNothing) :
    Twinned m (P.Sessions mine P.Working) (P.Sessions mine P.Joined) (fun m => SameResult (P.Outcomes m))
      (c.run E load).run (c.run E load).run := by
  have stays {work : StateM (Session σ) (Except Fault Outcome)}
      (twins : Twinned m (P.Sessions mine P.Working) (P.Sessions mine P.Working)
        (fun m => SameResult (P.Outcomes m)) work work) :
      Twinned m (P.Sessions mine P.Working) (P.Sessions mine P.Joined) (fun m => SameResult (P.Outcomes m)) work work :=
    twins.states id fun working => working.joined
  cases c with
  | createIndex | ofSource | ofAstFile | unitIndex => exact nothing.elim
  | parse on | read on | readNullString on =>
    exact stays ((Twinned.indexes (here on (.head _))).next fun _ _ _ _ absurd => absurd.elim)
  | unitSpelling on =>
    refine stays (.units (here on (.head _)) fun _ inUse => ?_)
    exact (Twinned.attempt (isolated.unitSpelling inUse)).answer .text fun _ => trivial
  | generation on =>
    refine stays (.units (here on (.head _)) fun _ inUse => .read fun _ _ _ _ sessions => ?_)
    rw [(sessions.worlds.fact inUse).generation]
    exact .ok fun _ _ => .plain trivial
  | root on =>
    refine stays (.units (here on (.head _)) fun _ inUse => ?_)
    exact .making (isolated.root inUse) fun _ _ _ => .cursor
  | getFile on path =>
    refine stays (.units (here on (.head _)) fun _ inUse => ?_)
    exact .making (isolated.getFile inUse path) fun _ _ _ => .file
  | reparse on unsaved options =>
    refine stays (.units (here on (.head _)) fun _ inUse => ?_)
    exact (Twinned.attempt (isolated.reparse inUse unsaved options)).answering fun _ _ _ _ _ => .plain trivial
  | save on path =>
    refine stays (.units (here on (.head _)) fun _ inUse => ?_)
    exact (Twinned.attempt (isolated.save inUse path)).answering fun _ _ _ _ _ => .plain trivial
  | fileName on =>
    refine stays ((Twinned.files (here on (.head _))).next fun _ f f' _ files => ?_)
    exact (Twinned.attempt (isolated.fileName files)).answer .text fun _ => trivial
  | fileTime on =>
    refine stays ((Twinned.files (here on (.head _))).next fun _ f f' _ files => ?_)
    exact (Twinned.act (isolated.fileTime files)).answer (fun time => .number time.toInt) fun _ => trivial
  | fileDisplay on =>
    refine stays ((Twinned.files (here on (.head _))).next fun _ f f' _ files => ?_)
    exact (Twinned.act (isolated.fileDisplay files)).answer .text fun _ => trivial
  | fileUnit on =>
    refine stays ((Twinned.files (here on (.head _))).next fun _ f f' _ files => ?_)
    rw [files.unit, files.unit']
    refine (Twinned.act (Pairing.clone files.inUse)).next fun _ u u' _ same => ?_
    obtain ⟨rfl, rfl⟩ := same
    exact .present (.unit files.inUse)
  | nullCursor => exact stays (.present (.cursor .absent))
  | ask on question => exact stays (.inspect isolated (here on.slot (.head _)) fun _ => isolated.question question)
  | equal a b =>
    refine stays ((Twinned.inspect isolated (here a.slot (.head _)) fun _ => .receiver).next fun _ c c' _ first => ?_)
    refine (Twinned.inspect isolated (here b.slot (.tail _ (.head _))) fun _ => .receiver).next
      fun _ d d' grown second => ?_
    exact (Twinned.act (isolated.equal (first.mono grown) second)).answer .flag fun _ => trivial
  | access on element =>
    refine stays ((Twinned.sequences (here on (.head _))).next fun _ s s' _ twins => ?_)
    exact .making (isolated.reach twins element) fun _ _ _ => .cursor
  | each on side => exact isolated.each (here on (.head _)) side
  | collect on => exact isolated.collect (here on (.head _))
  | clone on =>
    refine stays (Twinned.next (Twinned.held (here on (.head _)) fun _ _ _ _ objects => objects.clone)
      fun _ copy copy' _ copies => ?_)
    exact (Twinned.act copies).next fun _ _ _ _ objects =>
      .ok fun _ grown => ⟨.same trivial, .some (objects.mono grown)⟩
  | drop on =>
    refine .read fun m₁ s t grown sessions => ?_
    have both := sessions.slots on (here on (.head _))
    revert both
    generalize s.slots.find? on = found
    generalize t.slots.find? on = found'
    intro both
    cases both with
    | none => exact (Twinned.ok fun _ _ => .plain trivial).states id fun working => working.joined
    | some objects =>
      refine .last (fun working => working.joined) (Twinned.erase on) fun _ _ _ grown' _ => ?_
      exact (Twinned.letGo (objects.mono grown')).answering fun _ _ _ _ _ => .plain trivial
  | same a b =>
    refine stays (Twinned.next (Twinned.held (here a (.head _)) fun _ _ _ _ objects => .some objects)
      fun _ o o' grown first => ?_)
    have compared : Twinned m (P.Sessions mine P.Working) (P.Sessions mine P.Working) (fun _ => SameResult Eq)
        (Job.held b o.same? : Job σ Bool).run (Job.held b o'.same? : Job σ Bool).run :=
      .held (here b (.tail _ (.head _))) fun _ _ _ _ second => by
        cases first <;> cases second <;> first | exact .none | exact .some (by simp)
    exact (compared.later grown).answer .flag fun _ => trivial
  | describe on =>
    refine stays (Twinned.next (Twinned.held (here on (.head _)) fun _ _ _ _ objects => .some objects)
      fun _ o o' _ objects => ?_)
    refine (Twinned.act (isolated.describe objects)).next fun _ _ _ _ texts => .ok fun _ grown => ?_
    exact ⟨texts.mono grown, .none⟩

omit isolated in
/-- A new object is kept or let go of, and so is what the slot held. -/
theorem Pairing.keep {into : Option String} (here : ∀ slot ∈ into, mine slot) {o o' : Object}
    (objects : P.Objects m o o') :
    Twinned m (P.Sessions mine P.Joined) (P.Sessions mine P.Joined) (fun _ _ _ => True) (Session.keep E into o)
      (Session.keep E into o') := by
  cases into with
  | none => exact .onWorld objects.drop
  | some slot =>
    refine ⟨fun {m₁ s t} grown sessions => ?_⟩
    have both := sessions.slots slot (here slot rfl)
    have kept {m₂ : Matching} (grown' : m₁.Grows m₂) {w v : World σ} (after : P.Joined m₂ w v) :
        P.Sessions mine P.Joined m₂ ⟨w, s.slots.insert slot o⟩ ⟨v, t.slots.insert slot o'⟩ :=
      (sessions.onWorlds grown' after).insert slot (objects.mono (grown.trans grown'))
    rw [Session.keep_some, Session.keep_some]
    revert both
    generalize s.slots.find? slot = old
    generalize t.slots.find? slot = old'
    intro both
    cases both with
    | none => exact ⟨m₁, .refl m₁, kept (.refl m₁) sessions.worlds, trivial⟩
    | some both =>
      obtain ⟨m₂, grown', after, -⟩ := (both.drop (E := E)).together (.refl m₁) sessions.worlds
      exact ⟨m₂, grown', kept grown' after, trivial⟩

/-- A request on the objects of the unit comes to the same in both sessions. -/
theorem Isolated.request {r : Request} (inside : r.Inside mine) :
    Twinned m (P.Sessions mine P.Working) (P.Sessions mine P.Joined) (fun m => SameResult m.Replies)
      (Session.step E load r) (Session.step E load r) := by
  have ran : Twinned m (P.Sessions mine P.Working) (P.Sessions mine P.Joined) (fun m => SameResult (P.Outcomes m))
      (r.command.run E load).run (r.command.run E load).run :=
    isolated.command (fun slot member => inside.slots slot (List.mem_append_right _ member)) inside.opensNothing
  refine ran.bind fun m₁ result result' _ same => ?_
  cases same with
  | error fault => exact .pure fun _ _ => .error fault
  | @ok outcome outcome' outcomes =>
    obtain ⟨reply, made⟩ := outcome
    obtain ⟨reply', made'⟩ := outcome'
    obtain ⟨replies, objects⟩ := outcomes
    dsimp only at replies objects ⊢
    cases objects with
    | none => exact .pure fun _ grown => .ok (replies.mono grown)
    | some objects =>
      have into (slot : String) (member : slot ∈ r.into) : mine slot :=
        inside.slots slot (List.mem_append_left _ (by simpa using member))
      exact (Pairing.keep into objects).bind fun _ _ _ grown _ => .pure fun _ grown' =>
        .ok (replies.mono (grown.trans grown'))

end Commands

end HandleGraph
