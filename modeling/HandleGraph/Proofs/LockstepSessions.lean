import HandleGraph.Proofs.LockstepCursors
import HandleGraph.Proofs.Sessions

/-! # Sessions in lockstep

With engines in lockstep a command does the same in two sessions whose slots hold objects in the same
places. Commands that ask cursors need the same cursors besides, and commands that let go of units need
their owners in lockstep.
-/

namespace HandleGraph

variable {σ τ α β : Type}

instance (σ : Type) : Recording (Session σ) := ⟨fun s => s.world.calls⟩

/-- Slots that hold objects in the same places. -/
def SamePlaces (m n : SlotMap Object) : Prop :=
  ∀ slot, (m.find? slot).map Object.place = (n.find? slot).map Object.place

private theorem SamePlaces.refl (m : SlotMap Object) : SamePlaces m m := fun _ => rfl

/-- Sessions belong together when their worlds and their slots do. -/
def Coupling.session (K : Coupling (World σ) (World τ)) (slots : SlotMap Object → SlotMap Object → Prop) :
    Coupling (Session σ) (Session τ) :=
  K.along fun s t => K.rel s.world t.world ∧ slots s.slots t.slots

/-- Picking an object changes nothing. -/
theorem Job.held_apply {γ : Type} (slot : String) (pick : Object → Option γ) (s : Session σ) :
    (held slot pick : Job σ γ).run s =
      ((s.slots.find? slot >>= pick).elim (.error (.misused slot)) .ok, s) := by
  have ran : Ensures (held slot pick) s fun result after =>
      (result, after) = ((s.slots.find? slot >>= pick).elim (.error (.misused slot)) .ok, s) := by
    rw [held_iff]
    cases s.slots.find? slot >>= pick <;> rfl
  exact ran

namespace Alike

variable {K : Coupling (World σ) (World τ)} {slots : SlotMap Object → SlotMap Object → Prop}

private theorem onWorld {work : Action σ α} {other : Action τ α} (alike : Alike K work other) :
    Alike (K.session slots) (Session.act work) (Session.act other) where
  grows s := alike.grows s.world
  grows' t := alike.grows' t.world
  same coupled granted granted' := by
    obtain ⟨result, together⟩ := alike.same coupled.1 granted granted'
    exact ⟨result, together, coupled.2⟩

theorem act {work : Action σ α} {other : Action τ α} (alike : Alike K work other) :
    Alike (K.session slots) (Job.act work).run (Job.act other).run :=
  (onWorld alike).map Except.ok

private theorem attempt {work : Attempt σ α} {other : Attempt τ α} (alike : Alike K work.run other.run) :
    Alike (K.session slots) (Job.attempt work).run (Job.attempt other).run :=
  (onWorld alike).map (Except.mapError Fault.failed)

private theorem load {loading : Loading σ Unit} {other : Loading τ Unit} (alike : Alike K loading.run other.run) :
    Alike (K.session slots) (Job.load loading).run (Job.load other).run :=
  (onWorld alike).map (Except.mapError LoadFault.fault)

/-- The same object is picked from the same slots. -/
theorem held {γ : Type} {pick : Object → Option γ} (slot : String) :
    Alike (K.session Eq) (Job.held slot pick : Job σ γ).run (Job.held slot pick : Job τ γ).run := by
  refine .quiet (fun s => by rw [Job.held_apply]) (fun t => by rw [Job.held_apply]) fun coupled => ?_
  rw [Job.held_apply, Job.held_apply, show _ = _ from coupled.2]
  exact ⟨rfl, coupled⟩

end Alike

namespace Lockstep

variable {E : Engine σ} {F : Engine τ} {fits : List CString × List NativeUnsavedFile → Prop}
  {K : Coupling (World σ) (World τ)} {slots : SlotMap Object → SlotMap Object → Prop}

private theorem lookAround {next : Session σ → Job σ β} {next' : Session τ → Job τ β} (step : Lockstep E F fits K)
    (places : ∀ {m n}, slots m n → SamePlaces m n)
    (goesOn : ∀ s t, SamePlaces s.slots t.slots → SameCells s.world t.world →
      Alike (K.session slots) (next s).run (next' t).run) :
    Alike (K.session slots) (MonadState.get >>= next).run (MonadState.get >>= next').run := by
  refine Alike.read (V := fun s t => SamePlaces s.slots t.slots ∧ SameCells s.world t.world) ?_ ?_ ?_
    fun s t same => goesOn s t same.1 same.2
  · exact fun coupled => ⟨places coupled.2, step.cells coupled.1⟩
  · intro s
    obtain ⟨w, same⟩ := SameCells.exists_right step.inhabited' s.world
    exact ⟨⟨w, s.slots⟩, .refl _, same⟩
  · intro t
    obtain ⟨w, same⟩ := SameCells.exists_left step.inhabited t.world
    exact ⟨⟨w, t.slots⟩, .refl _, same⟩

/-- Picks that take or pass over objects in the same place together, and go on alike with what they take. -/
def PicksAlike {γ γ' : Type} (pick : Object → Option γ) (pick' : Object → Option γ') (goesOn : γ → γ' → Prop) : Prop :=
  ∀ o o' : Object, o.place = o'.place → match pick o, pick' o' with
    | some a, some a' => goesOn a a'
    | none, none => True
    | _, _ => False

private theorem held {γ γ' : Type} {pick : Object → Option γ} {pick' : Object → Option γ'} {next : γ → Job σ β}
    {next' : γ' → Job τ β} (step : Lockstep E F fits K) (places : ∀ {m n}, slots m n → SamePlaces m n) (slot : String)
    (picks : PicksAlike pick pick' fun a a' => Alike (K.session slots) (next a).run (next' a').run) :
    Alike (K.session slots) (Job.held slot pick >>= next).run (Job.held slot pick' >>= next').run := by
  unfold Job.held
  rw [bind_assoc, bind_assoc]
  refine step.lookAround places fun s t same _ => ?_
  have here := same slot
  cases present : s.slots.find? slot with
  | none =>
    rw [present, Option.map_none, eq_comm, Option.map_eq_none_iff] at here
    rw [here]
    exact .throw (Fault.misused slot)
  | some o =>
    rw [present, Option.map_some, eq_comm, Option.map_eq_some_iff] at here
    obtain ⟨o', present', same⟩ := here
    have picked := picks o o' same.symm
    rw [present']
    simp only [Option.bind_eq_bind, Option.bind_some]
    cases first : pick o <;> cases second : pick' o' <;> rw [first, second] at picked
    · exact .throw (Fault.misused slot)
    · exact picked.elim
    · exact picked.elim
    · exact picked

/-- Whatever is no cursor is the same in the same place. -/
theorem PicksAlike.of_eq {γ : Type} {pick : Object → Option γ} {goesOn : γ → γ → Prop}
    (same : ∀ o, pick o.place = pick o) (alike : ∀ a, goesOn a a) : PicksAlike pick pick goesOn := by
  intro o o' places
  rw [← same o, ← same o', places]
  cases pick o'.place with
  | none => trivial
  | some a => exact alike a

private theorem pick_index (o : Object) : o.place.index? = o.index? := by cases o <;> rfl

private theorem pick_unit (o : Object) : o.place.unit? = o.unit? := by cases o <;> rfl

private theorem pick_file (o : Object) : o.place.file? = o.file? := by cases o <;> rfl

theorem pick_cursors (o : Object) : o.place.cursors? = o.cursors? := by cases o <;> rfl

private theorem present (step : Lockstep E F fits K) (places : ∀ {m n}, slots m n → SamePlaces m n) (o : Object) :
    Alike (K.session slots) (Job.present o : Job σ Outcome).run (Job.present o : Job τ Outcome).run := by
  refine step.lookAround places fun s t _ same => ?_
  rw [Outcome.of, Outcome.of, same.reply]
  exact .ok _

/-- Make an object and answer with it. -/
theorem making {γ : Type} (step : Lockstep E F fits K) (places : ∀ {m n}, slots m n → SamePlaces m n)
    (wrap : γ → Object) {work : Attempt σ γ} {other : Attempt τ γ} (alike : Alike K work.run other.run) :
    Alike (K.session slots) (do Job.present (wrap (← Job.attempt work)) : Job σ Outcome).run
      (do Job.present (wrap (← Job.attempt other)) : Job τ Outcome).run :=
  (Alike.attempt alike).next fun a => step.present places (wrap a)

end Lockstep

/-- The commands that neither ask a cursor nor let go of a unit. -/
def Command.isPlain : Command → Bool
  | .ask .. | .equal .. | .each .. | .collect _ | .drop _ | .readNullString _ => false
  | _ => true

def Command.Fits (fits : List CString × List NativeUnsavedFile → Prop) : Command → Prop
  | .parse _ _ args files _ | .ofSource _ args files _ => ListsFit fits args files
  | .reparse _ files _ => ListsFit fits [] files
  | _ => True

namespace Lockstep

variable {E : Engine σ} {F : Engine τ} {fits : List CString × List NativeUnsavedFile → Prop}
  {K : Coupling (World σ) (World τ)} {slots : SlotMap Object → SlotMap Object → Prop}

private theorem sameObjects (o o' o₁ o₁' : Object) (first : o.place = o'.place) (second : o₁.place = o₁'.place) :
    o.same? o₁ = o'.same? o₁' := by
  have through (a b : Object) : a.same? b = a.place.same? b.place := by cases a <;> cases b <;> rfl
  rw [through, through o', first, second]

private theorem describe_places (step : Lockstep E F fits K) {o o' : Object} (same : o.place = o'.place) :
    Alike K (o.describe E) (o'.describe F) := by
  have through (o : Object) : o.describe E = o.place.describe E := by cases o <;> rfl
  rw [through, same, show o'.place.describe E = o'.describe E by cases o' <;> rfl]
  exact step.describe o'

private theorem clone_places (step : Lockstep E F fits K) {β : Type} {next : Object → Job σ β}
    {next' : Object → Job τ β}
    (goesOn : ∀ o, Alike (K.session slots) (next o).run (next' o).run) :
    PicksAlike (Object.clone? (σ := σ)) (Object.clone? (σ := τ)) fun copy copy' =>
      Alike (K.session slots) (do next (← Job.act copy)).run (do next' (← Job.act copy')).run := by
  intro o o' same
  rw [show o.clone? = (o.place.clone? : Option (Action σ Object)) by cases o <;> rfl,
    show o'.clone? = (o'.place.clone? : Option (Action τ Object)) by cases o' <;> rfl, same]
  cases o'.place with
  | index i => exact (Alike.act (step.cloneObject (.index i) rfl rfl)).next goesOn
  | unit u => exact (Alike.act (step.cloneObject (.unit u) rfl rfl)).next goesOn
  | file f => exact (Alike.act (step.cloneObject (.file f) rfl rfl)).next goesOn
  | cursor c => exact (Alike.act (step.cloneObject (.cursor c) rfl rfl)).next goesOn
  | cursors s => trivial

variable {load : Loading σ Unit} {load' : Loading τ Unit}

/-- For commands that neither ask a cursor nor let go of a unit it is enough that slots hold the same places. -/
theorem command (step : Lockstep E F fits K) (places : ∀ {m n}, slots m n → SamePlaces m n)
    (loads : Alike K load.run load'.run) {c : Command} (plain : c.isPlain) (fit : c.Fits fits) :
    Alike (K.session slots) (c.run E load).run (c.run F load').run := by
  have indexes {next : Index → Job σ Outcome} {next' : Index → Job τ Outcome} (slot : String)
      (goesOn : ∀ i, Alike (K.session slots) (next i).run (next' i).run) :
      Alike (K.session slots) (Job.held slot Object.index? >>= next).run (Job.held slot Object.index? >>= next').run :=
    step.held places slot (.of_eq pick_index goesOn)
  have units {next : TranslationUnit → Job σ Outcome} {next' : TranslationUnit → Job τ Outcome} (slot : String)
      (goesOn : ∀ u, Alike (K.session slots) (next u).run (next' u).run) :
      Alike (K.session slots) (Job.held slot Object.unit? >>= next).run (Job.held slot Object.unit? >>= next').run :=
    step.held places slot (.of_eq pick_unit goesOn)
  have files {next : File → Job σ Outcome} {next' : File → Job τ Outcome} (slot : String)
      (goesOn : ∀ f, Alike (K.session slots) (next f).run (next' f).run) :
      Alike (K.session slots) (Job.held slot Object.file? >>= next).run (Job.held slot Object.file? >>= next').run :=
    step.held places slot (.of_eq pick_file goesOn)
  cases c with
  | createIndex options => exact (Alike.load loads).next fun _ => step.making places .index (step.create options)
  | parse on path args unsaved options =>
    exact indexes on fun i => step.making places .unit (step.parse i path fit options)
  | read on path => exact indexes on fun i => step.making places .unit (step.load i path)
  | ofSource path args unsaved options =>
    exact (Alike.load loads).next fun _ => step.making places .unit (step.ofSource path fit options)
  | ofAstFile path => exact (Alike.load loads).next fun _ => step.making places .unit (step.ofAstFile path)
  | unitIndex on =>
    refine units on fun u => step.lookAround places fun s t _ same => ?_
    rw [same.unit_index]
    exact (Alike.act (step.clone_index _)).next fun i => step.present places (.index i)
  | unitSpelling on => exact units on fun u => (Alike.attempt (step.unitSpelling u)).next fun _ => .ok _
  | generation on =>
    refine units on fun u => step.lookAround places fun s t _ same => ?_
    rw [same.generation]
    exact .ok _
  | root on => exact units on fun u => step.making places .cursor (step.root u)
  | getFile on path => exact units on fun u => step.making places .file (step.getFile u path)
  | reparse on unsaved options =>
    exact units on fun u => (Alike.attempt (step.reparse u fit options)).next fun _ => .ok _
  | save on path => exact units on fun u => (Alike.attempt (step.save u path)).next fun _ => .ok _
  | fileName on => exact files on fun f => (Alike.attempt (step.fileName f)).next fun _ => .ok _
  | fileTime on =>
    exact files on fun f => (Alike.act (step.asking (.fileTime f.raw) rfl step.fits_nil)).next fun _ => .ok _
  | fileDisplay on => exact files on fun f => (Alike.act (step.fileDisplay f)).next fun _ => .ok _
  | fileUnit on =>
    exact files on fun f => (Alike.act (step.clone_unit f.unit)).next fun u => step.present places (.unit u)
  | nullCursor => exact step.present places (.cursor .null)
  | access on element =>
    exact step.held places on (.of_eq pick_cursors fun s => step.making places .cursor (step.reach s element))
  | clone on => exact step.held places on (step.clone_places fun _ => .ok _)
  | same a b =>
    refine step.held places a fun o o' first => ?_
    refine step.held places b fun o₁ o₁' second => ?_
    rw [sameObjects o o' o₁ o₁' first second]
    cases o'.same? o₁' with
    | none => trivial
    | some flag => exact .ok _
  | describe on =>
    exact step.held places on fun o o' same => (Alike.act (step.describe_places same)).next fun _ => .ok _
  | _ => cases plain

/-! ## Asking cursors and letting go -/

/-- Work on a cursor that both sessions have in the same slot. -/
theorem inspect (step : Lockstep E F fits K) (ref : CursorRef) {work : Inspect σ α} {other : Inspect τ α}
    (alike : Alike K.focus work.run other.run) :
    Alike (K.session Eq) (Job.inspect E ref work).run (Job.inspect F ref other).run := by
  refine (Alike.held ref.slot).next fun c => ?_
  have asked := step.along ref.path alike
  constructor
  · exact fun s => asked.grows ⟨c, s.world⟩
  · exact fun t => asked.grows' ⟨c, t.world⟩
  · intro s t coupled granted granted'
    obtain ⟨result, cursor, together⟩ :=
      asked.same (s := ⟨c, s.world⟩) (t := ⟨c, t.world⟩) ⟨rfl, coupled.1⟩ granted granted'
    refine ⟨congrArg (Except.mapError Fault.failed) result, together, ?_⟩
    exact congrArg₂ (fun slots c => SlotMap.insert slots ref.slot (Object.cursor c)) coupled.2 cursor

private theorem dropCursor (letGo : ∀ u : TranslationUnit, Alike K (u.drop E) (u.drop F)) (c : Cursor) :
    Alike K (c.drop E) (c.drop F) := .forM _ fun u _ => letGo u

private theorem dropObject (step : Lockstep E F fits K) (letGo : ∀ u : TranslationUnit, Alike K (u.drop E) (u.drop F))
    (o : Object) : Alike K (o.drop E) (o.drop F) := by
  cases o with
  | index i => exact step.drop_index i
  | unit u => exact letGo u
  | file f => exact letGo f.unit
  | cursor c => exact dropCursor letGo c
  | cursors s => exact letGo s.unit

private theorem changeSlots (change : SlotMap Object → SlotMap Object) :
    Alike (K.session Eq) (modify fun s : Session σ => { s with slots := change s.slots })
      (modify fun t : Session τ => { t with slots := change t.slots }) :=
  .quiet (fun _ => rfl) (fun _ => rfl) fun coupled => ⟨rfl, coupled.1, congrArg change coupled.2⟩

/-- Any command in sessions with the same slots. -/
theorem anyCommand (step : Lockstep E F fits K) (letGo : ∀ u : TranslationUnit, Alike K (u.drop E) (u.drop F))
    (loads : Alike K load.run load'.run) {c : Command} (graph : c.OnGraph) (fit : c.Fits fits) :
    Alike (K.session Eq) (c.run E load).run (c.run F load').run := by
  have places {m n : SlotMap Object} (same : m = n) : SamePlaces m n := same ▸ .refl m
  cases plain : c.isPlain with
  | true => exact step.command places loads plain fit
  | false =>
    cases c with
    | ask on question => exact step.inspect on (step.question question)
    | equal a b =>
      refine (step.inspect a Alike.receiver).next fun first => (step.inspect b Alike.receiver).next fun second => ?_
      exact (Alike.act (step.equal first second)).next fun _ => .ok _
    | each on side =>
      refine (Alike.held on).next fun s => (Alike.act (step.drain s side)).next fun elements => ?_
      refine step.lookAround places fun s t _ same => ?_
      simp only [same.view]
      refine (Alike.act (.forM elements fun element _ => ?_)).next fun _ => .ok _
      cases element with
      | error e => exact .pure ()
      | ok c => exact dropCursor letGo c
    | collect on =>
      refine (Alike.held on).next fun s => (Alike.attempt ?_).next fun cursors =>
        step.lookAround places fun s t _ same => ?_
      · refine (Alike.perform (step.gather s .front)).next fun gathered => ?_
        split_ifs
        · exact (Alike.perform (.forM _ fun c _ => dropCursor letGo c)).next fun _ => .pure gathered.toExcept
        · exact .pure gathered.toExcept
      · simp only [same.view]
        exact (Alike.act (.forM _ fun c _ => dropCursor letGo c)).next fun _ => .ok _
    | drop on =>
      refine Alike.read (V := fun s t => s.slots = t.slots) (fun coupled => coupled.2) ?_ ?_ fun s t same => ?_
      · exact fun s => step.inhabited'.elim fun engine => ⟨⟨.start engine, s.slots⟩, rfl⟩
      · exact fun t => step.inhabited.elim fun engine => ⟨⟨.start engine, t.slots⟩, rfl⟩
      · rw [same]
        cases t.slots.find? on with
        | none => exact .ok _
        | some o =>
          refine Alike.next ((changeSlots (·.erase on)).map Except.ok) fun _ => ?_
          exact (Alike.act (step.dropObject letGo o)).next fun _ => .ok _
    | readNullString => exact graph.elim
    | _ => cases plain

private theorem keep (step : Lockstep E F fits K) (letGo : ∀ u : TranslationUnit, Alike K (u.drop E) (u.drop F))
    (into : Option String) (o : Object) :
    Alike (K.session Eq) (Session.keep E into o) (Session.keep F into o) := by
  cases into with
  | none => exact .onWorld (step.dropObject letGo o)
  | some slot =>
    have released (old : Option Object) : Alike K (old.elim (pure ()) (·.drop E)) (old.elim (pure ()) (·.drop F)) := by
      cases old with
      | none => exact .pure ()
      | some old => exact step.dropObject letGo old
    have kept {σ : Type} (E : Engine σ) (s : Session σ) : (Session.keep E (some slot) o s).2 =
        ⟨((s.slots.find? slot).elim (pure ()) (·.drop E) s.world).2, s.slots.insert slot o⟩ := by
      rw [Session.keep_some]
      cases s.slots.find? slot <;> rfl
    constructor
    · intro s
      rw [kept]
      exact (released _).grows s.world
    · intro t
      rw [kept]
      exact (released _).grows' t.world
    · intro s t coupled granted granted'
      rw [kept] at granted granted' ⊢
      rw [kept]
      rw [show s.slots = t.slots from coupled.2] at granted ⊢
      exact ⟨rfl, ((released _).same coupled.1 granted granted').2, rfl⟩

/-- What a request makes goes into the same slot, after the same object was dropped there. -/
theorem request (step : Lockstep E F fits K) (letGo : ∀ u : TranslationUnit, Alike K (u.drop E) (u.drop F))
    (loads : Alike K load.run load'.run) {r : Request} (graph : r.command.OnGraph) (fit : r.command.Fits fits) :
    Alike (K.session Eq) (Session.step E load r) (Session.step F load' r) := by
  refine (step.anyCommand letGo loads graph fit).bind fun result => ?_
  cases result with
  | error fault => exact .pure _
  | ok outcome =>
    obtain ⟨reply, made⟩ := outcome
    cases made with
    | none => exact .pure _
    | some o => exact (step.keep letGo r.into o).bind fun _ => .pure _

/-- A whole run, by induction on the requests. -/
theorem requests (step : Lockstep E F fits K) (letGo : ∀ u : TranslationUnit, Alike K (u.drop E) (u.drop F))
    (loads : Alike K load.run load'.run) {requests : List Request} (graph : ∀ r ∈ requests, r.command.OnGraph)
    (fit : ∀ r ∈ requests, r.command.Fits fits) :
    Alike (K.session Eq) (Session.run E load requests) (Session.run F load' requests) := by
  induction requests with
  | nil => exact .pure []
  | cons r rest ih =>
    unfold Session.run at ih ⊢
    rw [List.mapM_cons, List.mapM_cons]
    refine (step.request letGo loads (graph r List.mem_cons_self) (fit r List.mem_cons_self)).bind fun reply => ?_
    refine (ih (fun q member => graph q (List.mem_cons_of_mem _ member))
      fun q member => fit q (List.mem_cons_of_mem _ member)).bind fun replies => .pure _

/-- At the end the same objects are dropped in the same order. -/
theorem close (step : Lockstep E F fits K) (letGo : ∀ u : TranslationUnit, Alike K (u.drop E) (u.drop F)) :
    Alike (K.session Eq) (Session.close E) (Session.close F) := by
  have all (slots : SlotMap Object) := Alike.forM (K := K.session Eq) slots.values fun o _ =>
    Alike.onWorld (step.dropObject letGo o)
  constructor
  · exact fun s => (all s.slots).grows ⟨s.world, .empty⟩
  · exact fun t => (all t.slots).grows' ⟨t.world, .empty⟩
  · rintro ⟨w, slots⟩ ⟨v, _⟩ ⟨together, rfl⟩ granted granted'
    exact (all slots).same (s := ⟨w, .empty⟩) (t := ⟨v, .empty⟩) ⟨together, rfl⟩ granted granted'

end Lockstep

end HandleGraph
