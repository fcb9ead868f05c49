import HandleGraph.Proofs.ShadowCursors

/-! # Sessions with and without memory

A session without memory holds the same objects as one with memory, but for what cursors remember. Command
by command both come to the same answers, make the same objects and let go of the same ones.
-/

namespace HandleGraph

variable {σ ν α β : Type} {view : σ → ν} {E : Engine σ} {T : CursorTable} {load : Loading σ Unit}

/-! ## Slots without memory -/

namespace SlotMap

variable {m : SlotMap Object}

/-- Slots but for what cursors remember. -/
def bare (m : SlotMap Object) : SlotMap Object := ⟨m.entries.map fun entry => (entry.1, entry.2.place)⟩

private theorem find?_bare (m : SlotMap Object) (slot : String) :
    m.bare.find? slot = (m.find? slot).map Object.place := by
  obtain ⟨entries⟩ := m
  change (entries.map fun entry => (entry.1, entry.2.place)).lookup slot = (entries.lookup slot).map Object.place
  induction entries with
  | nil => rfl
  | cons entry rest ih =>
    rw [List.map_cons, lookup_cons_if, lookup_cons_if, ih]
    split_ifs <;> rfl

theorem values_bare (m : SlotMap Object) : m.bare.values = m.values.map Object.place := by
  simp [bare, values]

private theorem bare_erase (m : SlotMap Object) (slot : String) : (m.erase slot).bare = m.bare.erase slot := by
  simp only [bare, erase, List.filter_map]
  rfl

/-- Without memories a slot is filled as before. -/
theorem bare_insert (m : SlotMap Object) (slot : String) (o : Object) :
    (m.insert slot o).bare = m.bare.insert slot o.place := by
  obtain ⟨entries⟩ := m
  refine congrArg SlotMap.mk ?_
  change (insertEntry slot o entries).map _ = insertEntry slot o.place (entries.map _)
  induction entries with
  | nil => rfl
  | cons entry rest ih =>
    simp only [insertEntry, List.map_cons]
    split_ifs
    · rfl
    · rfl
    · rw [List.map_cons, ih]

/-- To fill a slot with what it holds is to change nothing. -/
theorem Ordered.insert_self {α : Type} {m : SlotMap α} (ordered : m.Ordered) {slot : String} {value : α}
    (present : m.find? slot = some value) : m.insert slot value = m := by
  obtain ⟨entries⟩ := m
  refine congrArg SlotMap.mk ?_
  change entries.lookup slot = some value at present
  induction entries with
  | nil => cases present
  | cons entry rest ih =>
    obtain ⟨key, held⟩ := entry
    obtain ⟨above, later⟩ := List.pairwise_cons.mp ordered
    rw [lookup_cons_if] at present
    rw [insertEntry]
    split_ifs at present ⊢ with same before
    · rw [same, Option.some.inj present]
    · have none : rest.lookup slot = none :=
        List.lookup_eq_none_iff.mpr fun entry member => by simpa using (before.trans (above entry member)).ne
      rw [none] at present
      cases present
    · rw [ih later present]

private theorem Ordered.bare (ordered : m.Ordered) : m.bare.Ordered := List.pairwise_map.mpr ordered

/-- A cursor that has come to remember more stays in its place. -/
theorem Ordered.bare_insert_self (ordered : m.Ordered) {slot : String} {o o' : Object} (present : m.find? slot = some o)
    (place : o'.place = o.place) : (m.insert slot o').bare = m.bare := by
  rw [bare_insert, place]
  refine ordered.bare.insert_self ?_
  rw [find?_bare, present]
  rfl

/-- The same units are owned without memory. -/
theorem Ordered.mem_owners_bare (ordered : m.Ordered) {b : Books} (sound : ∀ slot o, m.find? slot = some o → o.Sound b)
    (u : TranslationUnit) : .unit u ∈ m.owners ↔ .unit u ∈ m.bare.owners := by
  have values (o : Object) (member : o ∈ m.values) : o.Sound b := by
    obtain ⟨slot, present⟩ := ordered.mem_values_iff.mp member
    exact sound slot o present
  rw [owners, owners, values_bare]
  exact Object.mem_sum_place values u

end SlotMap

/-! ## Sessions side by side -/

/-- Loading an engine enters nothing, and comes to the same in worlds that shadow one another. -/
structure Loads (view : σ → ν) (load : Loading σ Unit) : Prop where
  silent : Silent load
  same : ∀ {w v}, Shadows view w v → (load.run w).1 = (load.run v).1 ∧ Shadows view (load.run w).2 (load.run v).2

theorem Loads.pure : Loads view (Pure.pure () : Loading σ Unit) := ⟨silent_pure, fun shadows => ⟨rfl, shadows⟩⟩

private theorem Loads.alike (loads : Loads view load) : Alike (shadowing T view) load.run load.run :=
  .quiet (fun w => congrArg (fun b : Books => b.calls) (loads.silent w))
    (fun w => congrArg (fun b : Books => b.calls) (loads.silent w)) loads.same

/-- The books are kept when nothing is owned besides what is in the slots. -/
theorem Session.Kept.alone {s : Session σ} (kept : s.Kept) : s.books.Kept (0 + s.owners) := by
  rw [zero_add]
  exact kept.books

/-- A session with faithful cursors, and one that holds the same without memory. -/
structure Session.Beside (T : CursorTable) (view : σ → ν) (s t : Session σ) : Prop where
  world : Shadows view s.world t.world
  slots : t.slots = s.slots.bare
  faithful : ∀ slot c, s.slots.find? slot = some (.cursor c) → c.Faithful T

/-- Both sessions come to the same, and stay side by side. -/
structure Job.Agree (T : CursorTable) (view : σ → ν) (g : α → β) (found : Except Fault α × Session σ)
    (found' : Except Fault β × Session σ) : Prop where
  result : found.1.map g = found'.1
  beside : found.2.Beside T view found'.2

namespace Session.Beside

variable {s t : Session σ}

theorem start (T : CursorTable) (view : σ → ν) (engine : σ) :
    (Session.start engine).Beside T view (Session.start engine) :=
  ⟨.refl view _, rfl, nofun⟩

theorem find? (beside : s.Beside T view t) (slot : String) :
    t.slots.find? slot = (s.slots.find? slot).map Object.place := by
  rw [beside.slots, SlotMap.find?_bare]

private theorem samePlaces {m n : SlotMap Object} (bare : n = m.bare) : SamePlaces m n := by
  intro slot
  rw [bare, SlotMap.find?_bare]
  cases m.find? slot with
  | none => rfl
  | some o => cases o <;> rfl

private theorem cursors? (beside : s.Beside T view t) (slot : String) :
    t.slots.find? slot >>= Object.cursors? = s.slots.find? slot >>= Object.cursors? := by
  rw [beside.find?]
  cases s.slots.find? slot with
  | none => rfl
  | some o => exact Lockstep.pick_cursors o

/-- What happens in the worlds alone. -/
theorem worlds (beside : s.Beside T view t) {w v : World σ} (shadows : Shadows view w v) :
    Session.Beside T view { s with world := w } { t with world := v } :=
  ⟨shadows, beside.slots, beside.faithful⟩

/-- The same units are owned in both sessions. -/
theorem mem_owners (beside : s.Beside T view t) (sound : s.Sound) (u : TranslationUnit) :
    .unit u ∈ s.owners ↔ .unit u ∈ t.owners := by
  rw [Session.owners, Session.owners, beside.slots]
  exact sound.ordered.mem_owners_bare sound.objects u

/-- The same units are owned in both sessions, besides what is in a slot. -/
theorem mem_owners_erase (beside : s.Beside T view t) (sound : s.Sound) (slot : String) (u : TranslationUnit) :
    .unit u ∈ (s.slots.erase slot).owners ↔ .unit u ∈ (t.slots.erase slot).owners := by
  have others (other : String) (o : Object) (there : (s.slots.erase slot).find? other = some o) : o.Sound s.books := by
    rw [SlotMap.find?_erase] at there
    split_ifs at there
    exact sound.objects other o there
  rw [beside.slots, ← SlotMap.bare_erase]
  exact (sound.ordered.erase slot).mem_owners_bare others u

/-- What is in a slot is let go of in both sessions. -/
theorem drop_held (indifferent : Indifferent E view) (beside : s.Beside T view t) (sound : s.Sound) (sound' : t.Sound)
    {slot : String} {o : Object} (present : s.slots.find? slot = some o) {extra : Multiset Owner}
    (kept : s.books.Kept (extra + s.owners)) (kept' : t.books.Kept (extra + t.owners)) :
    Shadows view (o.drop E s.world).2 (o.place.drop E t.world).2 := by
  have present' : t.slots.find? slot = some o.place := by rw [beside.find?, present]; rfl
  rw [Session.owners, sound.ordered.owners_erase present, add_left_comm] at kept
  rw [Session.owners, sound'.ordered.owners_erase present', add_left_comm] at kept'
  refine beside.world.drop_object indifferent (sound.objects slot o present) kept kept' fun u => ?_
  rw [Multiset.mem_add, Multiset.mem_add, beside.mem_owners_erase sound]

end Session.Beside

private theorem Job.inspect_apply (ref : CursorRef) (work : Inspect σ α) (s : Session σ) :
    (inspect E ref work).run s = match s.slots.find? ref.slot >>= Object.cursor? with
      | some c => (((Cursor.along E ref.path work).run ⟨c, s.world⟩).1.mapError .failed,
          ⟨((Cursor.along E ref.path work).run ⟨c, s.world⟩).2.world,
            s.slots.insert ref.slot (.cursor ((Cursor.along E ref.path work).run ⟨c, s.world⟩).2.cursor)⟩)
      | none => (.error (.misused ref.slot), s) := by
  rw [inspect, ExceptT.run_bind, bind_apply, held_apply]
  cases s.slots.find? ref.slot >>= Object.cursor? <;> rfl

private theorem Job.visit_apply (ref : CursorRef) (work : Cursor → Attempt σ α) (s : Session σ) :
    (visit E ref work).run s = match s.slots.find? ref.slot >>= Object.cursor? with
      | some c => (((c.visit E work ref.path).run s.world).1.mapError .failed,
          { s with world := ((c.visit E work ref.path).run s.world).2 })
      | none => (.error (.misused ref.slot), s) := by
  rw [visit, ExceptT.run_bind, bind_apply, held_apply]
  cases s.slots.find? ref.slot >>= Object.cursor? <;> rfl

/-! ## Elements of sequences -/

/-- Elements of a sequence are let go of without notice, because the sequence owns their unit. -/
theorem Shadows.drop_produced {q : CursorSequence} {w after : World σ} {held : Multiset Owner} {elements : List Cursor}
    (produced : q.Produced w held elements after) (kept : w.books.Kept held) (own : .unit q.unit ∈ held) :
    Coincide view after (elements.forM (Cursor.drop E) after).2 :=
  drop_cursors produced.rooted (kept.course produced.entered) own

private theorem CursorSequence.calls_dropAll (elements : List Cursor) (w : World σ) :
    w.calls <+: (elements.forM (Cursor.drop E) w).2.calls := by
  have course : Books.Course (w.books, owners elements + 0) ((elements.forM (Cursor.drop E) w).2.books, 0) :=
    dropAll_course elements
  exact (Books.Extends.course course).calls

/-- Failures among the elements are passed over when these are let go of. -/
theorem CursorSequence.dropDrained_eq (elements : List (Except Error Cursor)) :
    elements.forM (fun element => element.toOption.elim (pure ()) (·.drop E)) =
      (drained elements).forM (Cursor.drop E) := by
  induction elements with
  | nil => rfl
  | cons element rest ih =>
    cases element with
    | error e => exact ih
    | ok c => exact congrArg (fun later => c.drop E >>= fun _ => later) ih

private theorem CursorSequence.toList_apply (q : CursorSequence) (w : World σ) :
    (q.toList E).run w =
      let gathered := (q.toSequence E).gather .front (q.toSequence E).iter w
      (gathered.1.toExcept, gathered.1.failure.elim gathered.2
        fun _ => (gathered.1.elements.forM (Cursor.drop E) gathered.2).2) := by
  have ran (gathered : Sequence.Gathered Cursor) (w : World σ) : (do
        if gathered.failure.isSome then perform (gathered.elements.forM (·.drop E))
        settle gathered.toExcept : Attempt σ (List Cursor)).run w =
      (gathered.toExcept, gathered.failure.elim w fun _ => (gathered.elements.forM (Cursor.drop E) w).2) := by
    obtain ⟨elements, _ | e⟩ := gathered <;> rfl
  exact ran _ _

/-- Produce elements of the sequence in a slot, answer by them and let go of them. -/
def Session.consume {γ : Type} (E : Engine σ) (on : String) (produce : CursorSequence → Action σ γ)
    (elements : γ → List Cursor) (answer : γ → World σ → Except Fault Outcome) (s : Session σ) :
    Except Fault Outcome × Session σ :=
  match s.slots.find? on >>= Object.cursors? with
  | some q =>
    let (produced, w) := (produce q).run s.world
    (answer produced w, { s with world := ((elements produced).forM (Cursor.drop E) w).2 })
  | none => (.error (.misused on), s)

/-- Every element is produced before the first is let go of. -/
theorem Command.each_apply (on : String) (side : Sequence.Side) (s : Session σ) :
    ((each on side).run E load).run s =
      s.consume E on (fun q => (q.toSequence E).drain side (q.toSequence E).iter) CursorSequence.drained
        fun elements w => .ok ⟨.results (elements.map fun element => element.map (·.view w)), none⟩ := by
  unfold run Session.consume
  rw [ExceptT.run_bind, bind_apply, Job.held_apply]
  cases s.slots.find? on >>= Object.cursors? with
  | none => rfl
  | some q =>
    simp only [← CursorSequence.dropDrained_eq]
    rfl

/-- When an element fails, those before it are let go of and the failure is the answer. -/
theorem Command.collect_apply (on : String) (s : Session σ) :
    ((collect on).run E load).run s =
      s.consume E on (fun q => (q.toSequence E).gather .front (q.toSequence E).iter) (·.elements)
        fun gathered w => gathered.failure.elim (.ok ⟨.views (gathered.elements.map (·.view w)), none⟩)
          fun e => .error (.failed e) := by
  unfold run Session.consume
  rw [ExceptT.run_bind, bind_apply, Job.held_apply]
  cases s.slots.find? on >>= Object.cursors? with
  | none => rfl
  | some q =>
    have ran : (Job.attempt (q.toList E)).run s =
        (((q.toList E).run s.world).1.mapError Fault.failed, { s with world := ((q.toList E).run s.world).2 }) := rfl
    change ((Job.attempt (q.toList E) >>= _ : Job σ Outcome).run s) = _
    rw [ExceptT.run_bind, bind_apply, ran, CursorSequence.toList_apply]
    dsimp only [StateT.run]
    generalize (q.toSequence E).gather .front (q.toSequence E).iter s.world = gathered
    obtain ⟨⟨elements, _ | e⟩, w⟩ := gathered <;> rfl

/-- Elements of a sequence are alike on both sides, and so is what they show. -/
theorem Session.consume_agrees {γ : Type} {produce : CursorSequence → Action σ γ} {elements : γ → List Cursor}
    {answer : γ → World σ → Except Fault Outcome} (alike : ∀ q, Alike (shadowing T view) (produce q) (produce q))
    (produces : ∀ {q : CursorSequence} {w : World σ} {held}, .unit q.unit ∈ held → q.Sound w.books →
      q.Produced w held (elements (produce q w).1) (produce q w).2)
    (same : ∀ produced {w v : World σ}, SameCells w v → answer produced w = answer produced v)
    {s t : Session σ} (beside : s.Beside T view t) (kept : s.Kept) (kept' : t.Kept) (on : String)
    (granted : T.Grants (s.consume E on produce elements answer).2.world.calls)
    (granted' : T.Grants (t.consume E on produce elements answer).2.world.calls) :
    Job.Agree T view id (s.consume E on produce elements answer) (t.consume E on produce elements answer) := by
  unfold Session.consume at granted granted' ⊢
  rw [beside.cursors?] at granted' ⊢
  cases picked : s.slots.find? on >>= Object.cursors? with
  | none => exact ⟨rfl, beside⟩
  | some q =>
    rw [picked] at granted granted'
    obtain ⟨o, present, picked⟩ := Option.bind_eq_some_iff.mp picked
    obtain rfl := Object.eq_of_cursors? picked
    have present' : t.slots.find? on = some (.cursors q) := by rw [beside.find?, present]; rfl
    obtain ⟨own, sound⟩ := kept.sound.cursors present
    obtain ⟨own', sound'⟩ := kept'.sound.cursors present'
    have produced := produces own sound
    have produced' := produces own' sound'
    have together := (alike q).same beside.world
    dsimp only [StateT.run] at granted granted' ⊢
    generalize produce q s.world = found, produce q t.world = found' at together produced produced' granted granted' ⊢
    obtain ⟨made, w⟩ := found
    obtain ⟨made', v⟩ := found'
    obtain ⟨again, shadows⟩ := together (granted.of_isPrefix (CursorSequence.calls_dropAll _ w))
      (granted'.of_isPrefix (CursorSequence.calls_dropAll _ v))
    obtain rfl : made = made' := again
    refine ⟨(congrFun Except.map_id _).trans (same made shadows.cells),
      beside.worlds ((Shadows.trans ?_ shadows).trans ?_)⟩
    · exact (Shadows.drop_produced produced kept.books own).back
    · exact (Shadows.drop_produced produced' kept'.books own').forth

/-! ## Commands -/

private theorem Job.equalSecond_apply (first : Cursor) (ref : CursorRef) (s : Session σ) :
    (do act (first.equal E (← inspect E ref Inspect.receiver)) : Job σ Bool).run s =
      match (inspect E ref Inspect.receiver).run s with
      | (.ok second, after) => (.ok (first.equal E second after.world).1,
          { after with world := (first.equal E second after.world).2 })
      | (.error fault, after) => (.error fault, after) := by
  rw [ExceptT.run_bind, bind_apply]
  rcases (inspect E ref Inspect.receiver).run s with ⟨e | second, after⟩ <;> rfl

private theorem Command.equal_apply (a b : CursorRef) (s : Session σ) :
    ((equal a b).run E load).run s = match (Job.inspect E a Inspect.receiver).run s with
      | (.ok first, after) =>
        let compared := (do Job.act (first.equal E (← Job.inspect E b Inspect.receiver)) : Job σ Bool).run after
        (compared.1.map fun flag => ⟨.flag flag, none⟩, compared.2)
      | (.error fault, after) => (.error fault, after) := by
  unfold run
  rw [ExceptT.run_bind, bind_apply]
  obtain ⟨e | first, after⟩ := (Job.inspect E a Inspect.receiver).run s
  · rfl
  · dsimp only
    rw [ExceptT.run_bind, ExceptT.run_bind, bind_apply, bind_apply]
    obtain ⟨e | second, last⟩ := (Job.inspect E b Inspect.receiver).run after <;> rfl

private theorem Command.equalUncached_apply (a b : CursorRef) (s : Session σ) :
    ((equal a b).runUncached E load).run s = match (Job.visit E a fun c => perform c.clone).run s with
      | (.ok first, after) =>
        let compared := (Job.compare E first b).run after
        (compared.1.map fun flag => ⟨.flag flag, none⟩, compared.2)
      | (.error fault, after) => (.error fault, after) := by
  unfold runUncached
  rw [ExceptT.run_bind, bind_apply]
  obtain ⟨e | first, after⟩ := (Job.visit E a fun c => perform c.clone).run s
  · rfl
  · dsimp only
    rw [ExceptT.run_bind, bind_apply]
    obtain ⟨e | flag, last⟩ := (Job.compare E first b).run after <;> rfl

private theorem Command.drop_apply (on : String) (s : Session σ) :
    ((drop on).run E load).run s = match s.slots.find? on with
      | some o => (.ok ⟨.flag true, none⟩, ⟨(o.drop E s.world).2, s.slots.erase on⟩)
      | none => (.ok ⟨.flag false, none⟩, s) := by
  have read : (get : Job σ (Session σ)).run s = (.ok s, s) := rfl
  unfold run
  rw [ExceptT.run_bind, bind_apply, read]
  dsimp only
  cases s.slots.find? on <;> rfl

/-- An object is taken out of its slot and let go of. -/
theorem Command.drop_agrees (indifferent : Indifferent E view) {s t : Session σ} (beside : s.Beside T view t)
    (kept : s.Kept) (kept' : t.Kept) (on : String) :
    Job.Agree T view id (((Command.drop on).run E load).run s) (((Command.drop on).run E load).run t) := by
  rw [drop_apply, drop_apply, beside.find?]
  cases present : s.slots.find? on with
  | none => exact ⟨rfl, beside⟩
  | some o =>
    have dropped := beside.drop_held indifferent kept.sound kept'.sound present kept.alone kept'.alone
    refine ⟨rfl, dropped, ?_, fun slot c there => ?_⟩
    · change t.slots.erase on = (s.slots.erase on).bare
      rw [beside.slots, SlotMap.bare_erase]
    · change (s.slots.erase on).find? slot = _ at there
      rw [SlotMap.find?_erase] at there
      split_ifs at there
      exact beside.faithful slot c there

section Commands

variable (indifferent : Indifferent E view) (inhabited : Nonempty σ) {s t : Session σ}

include indifferent inhabited

/-- A command that neither asks a cursor nor lets go of anything. -/
theorem Command.plain_agrees (loads : Loads view load) {c : Command} (plain : c.isPlain = true)
    (beside : s.Beside T view t) (granted : T.Grants ((c.run E load).run s).2.world.calls)
    (granted' : T.Grants ((c.run E load).run t).2.world.calls) :
    Job.Agree T view id ((c.run E load).run s) ((c.run E load).run t) := by
  have step := indifferent.lockstep (T := T) inhabited
  have fit : c.Fits fun _ => True := by cases c <;> first | trivial | exact fun _ _ _ _ => trivial
  have other : c.asksOrDrops = false := by cases c <;> first | rfl | cases plain
  have slots : ((c.run E load).run s).2.slots = s.slots := (leavesSlots other s).1
  have alike : Alike ((shadowing T view).session fun m n => n = m.bare) (c.run E load).run (c.run E load).run :=
    step.command Session.Beside.samePlaces loads.alike plain fit
  obtain ⟨result, world, same⟩ := alike.same ⟨beside.world, beside.slots⟩ granted granted'
  refine ⟨(congrFun Except.map_id _).trans result, world, same, ?_⟩
  rw [slots]
  exact beside.faithful

/-- Asking a cursor in a slot. What it remembers afterwards stays in the slot on the one side. -/
theorem Job.inspect_agrees {g : α → β} {work : Inspect σ α} {other : Cursor → Attempt σ β}
    {owners : β → Multiset Owner} {good : Books → TranslationUnit → UInt64 → Cursor → β → Prop}
    (meets : Meets T view g work other)
    (receives : ∀ path, Cursor.Receives (fun c => c.visit E other path) owners good) (beside : s.Beside T view t)
    (ordered : s.slots.Ordered) (sound' : t.Sound) {extra : Multiset Owner}
    (kept' : t.books.Kept (extra + t.owners)) (ref : CursorRef)
    (granted : T.Grants ((inspect E ref work).run s).2.world.calls)
    (granted' : T.Grants ((visit E ref other).run t).2.world.calls) :
    Agree T view g ((inspect E ref work).run s) ((visit E ref other).run t) := by
  rw [inspect_apply] at granted ⊢
  rw [visit_apply] at granted' ⊢
  rw [beside.find?] at granted' ⊢
  cases present : s.slots.find? ref.slot with
  | none => exact ⟨rfl, beside⟩
  | some o =>
    rw [present] at granted granted'
    cases o with
    | cursor c =>
      have present' : t.slots.find? ref.slot = some (.cursor c.bare) := by rw [beside.find?, present]; rfl
      obtain ⟨u, generation, rooted⟩ := sound'.objects _ _ present'
      have own (x : TranslationUnit) (here : c.unit = some x) : .unit x ∈ extra + t.owners :=
        Multiset.mem_add.mpr (.inr (sound'.mem_owners present'
          (Cursor.mem_owners_iff.mpr ⟨[], c.bare, x, rfl, here, rfl⟩)))
      have faces : Faces T view ⟨c, s.world⟩ t.world (extra + t.owners) u generation :=
        ⟨beside.world, beside.faithful _ c present, rooted, own, kept'⟩
      obtain ⟨result, shadows, faithful, place⟩ :=
        (meets.along indifferent inhabited receives ref.path).same faces granted granted'
      refine ⟨?_, shadows, ?_, fun slot d there => ?_⟩
      · have through (found : Except Error α) :
            (found.mapError Fault.failed).map g = (found.map g).mapError .failed := by
          cases found <;> rfl
        exact (through _).trans (congrArg (Except.mapError Fault.failed) result)
      · refine beside.slots.trans (ordered.bare_insert_self present ?_).symm
        exact congrArg Object.cursor place
      · change (s.slots.insert _ _).find? slot = _ at there
        rw [SlotMap.find?_insert] at there
        split_ifs at there
        · exact Object.cursor.inj (Option.some.inj there) ▸ faithful
        · exact beside.faithful slot d there
    | _ => exact ⟨rfl, beside⟩

private theorem Command.ask_agrees (beside : s.Beside T view t) (kept : s.Kept) (kept' : t.Kept)
    (on : CursorRef) (q : Question)
    (granted : T.Grants (((Command.ask on q).run E load).run s).2.world.calls)
    (granted' : T.Grants (((Command.ask on q).runUncached E load).run t).2.world.calls) :
    Job.Agree T view id (((Command.ask on q).run E load).run s) (((Command.ask on q).runUncached E load).run t) :=
  Job.inspect_agrees indifferent inhabited (Question.meets indifferent inhabited q)
    (Cursor.visit_ask_receives q) beside kept.sound.ordered kept'.sound kept'.alone on granted granted'

/-- A cursor is compared with the one that a reference leads to. Without memory both are copies, which are let
go of. -/
theorem Job.compare_agrees {first : Cursor} {u : TranslationUnit} {generation : UInt64}
    (rooted : first.bare.Rooted t.books u generation) (own : ∀ x, first.unit = some x → .unit x ∈ t.owners)
    (beside : s.Beside T view t) (ordered : s.slots.Ordered) (sound' : t.Sound)
    (kept' : t.books.Kept (first.bare.owners + t.owners)) (ref : CursorRef)
    (granted : T.Grants ((do act (first.equal E (← inspect E ref Inspect.receiver)) : Job σ Bool).run s).2.world.calls)
    (granted' : T.Grants ((compare E first.bare ref).run t).2.world.calls) :
    Agree T view id ((do act (first.equal E (← inspect E ref Inspect.receiver)) : Job σ Bool).run s)
      ((compare E first.bare ref).run t) := by
  have step := indifferent.lockstep (T := T) inhabited
  have looked := inspect_agrees indifferent inhabited Cursor.clone_meets Cursor.visit_clone_receives beside ordered
    sound' kept' ref
  have received := visit_received (E := E) sound' first.bare.owners ref (Cursor.visit_clone_receives ref.path)
  unfold Ensures at received
  rw [equalSecond_apply] at granted ⊢
  rw [compare_apply] at granted' ⊢
  generalize (inspect E ref Inspect.receiver).run s = found, (visit E ref fun d => perform d.clone).run t = found'
    at looked received granted granted' ⊢
  obtain ⟨result, after⟩ := found
  obtain ⟨result', after'⟩ := found'
  -- The calls of the comparison and of letting go come after those of the second visit.
  have earlier' : T.Grants after'.world.calls := by
    cases result' with
    | error fault => exact granted'.of_isPrefix (first.bare.calls_drop _)
    | ok second =>
      exact granted'.of_isPrefix (((step.equal first.bare second).grows' after'.world).trans
        ((first.bare.calls_drop _).trans (second.calls_drop _)))
  cases result with
  | error fault =>
    obtain ⟨same, beside⟩ := looked granted earlier'
    obtain rfl : result' = .error fault := same.symm
    obtain ⟨-, course⟩ := received
    have dropped : Shadows view after'.world (first.bare.drop E after'.world).2 :=
      (Shadows.drop_rooted rooted (kept'.course course) (own u)).forth
    exact ⟨rfl, beside.worlds (beside.world.trans dropped)⟩
  | ok second =>
    obtain ⟨same, beside⟩ := looked (granted.of_isPrefix ((step.equal first second).grows after.world)) earlier'
    obtain rfl : result' = .ok second.bare := same.symm
    obtain ⟨-, course, c, v, other, present, copied, unit⟩ := received
    have own' (x : TranslationUnit) (here : second.bare.unit = some x) : .unit x ∈ t.owners :=
      sound'.mem_owners present (Cursor.mem_owners_iff.mpr ⟨[], c, x, rfl, unit x here, rfl⟩)
    have both (x : TranslationUnit) (here : first.bare.unit = some x ∨ second.bare.unit = some x) :
        .unit x ∈ second.bare.owners + (first.bare.owners + t.owners) :=
      Multiset.mem_add.mpr (.inr (Multiset.mem_add.mpr (.inr (here.elim (own x) (own' x)))))
    have compared :=
      kept'.course (course.trans (Cursor.equal_course (E := E) (rooted.mono (.course course)) copied both))
    rw [add_left_comm] at compared
    obtain ⟨flag, shadows⟩ := (step.equal first second).same beside.world granted
      (granted'.of_isPrefix ((first.bare.calls_drop _).trans (second.bare.calls_drop _)))
    have dropped {w : World σ} (still : w.books.Kept (first.bare.owners + (second.bare.owners + t.owners))) :
        Shadows view w (first.bare.drop E w).2 :=
      (Shadows.drop_rooted rooted still fun here => Multiset.mem_add.mpr (.inr (own u here))).forth
    have left := compared.course (first.bare.drop_course (E := E))
    refine ⟨congrArg Except.ok flag, beside.worlds ((shadows.trans (dropped compared)).trans ?_)⟩
    exact (Shadows.drop_rooted copied left (own' v)).forth

private theorem Command.equal_agrees (beside : s.Beside T view t) (kept : s.Kept) (kept' : t.Kept) (a b : CursorRef)
    (granted : T.Grants (((Command.equal a b).run E load).run s).2.world.calls)
    (granted' : T.Grants (((Command.equal a b).runUncached E load).run t).2.world.calls) :
    Job.Agree T view id (((Command.equal a b).run E load).run s) (((Command.equal a b).runUncached E load).run t) := by
  have step := indifferent.lockstep (T := T) inhabited
  have looked := Job.inspect_agrees indifferent inhabited Cursor.clone_meets Cursor.visit_clone_receives beside
    kept.sound.ordered kept'.sound kept'.alone a
  have entered := Job.peek_entered (E := E) kept.sound a
  have received := Job.visit_copies (E := E) kept'.sound a
  unfold Ensures at entered received
  rw [equal_apply] at granted ⊢
  rw [equalUncached_apply] at granted' ⊢
  generalize (Job.inspect E a Inspect.receiver).run s = found, (Job.visit E a fun d => perform d.clone).run t = found'
    at looked entered received granted granted' ⊢
  obtain ⟨result, after⟩ := found
  obtain ⟨result', after'⟩ := found'
  have earlier : T.Grants after.world.calls := by
    cases result with
    | error fault => exact granted
    | ok first =>
      have compared := (step.inspect b Alike.receiver).next fun second => Alike.act (step.equal first second)
      exact granted.of_isPrefix (compared.grows after)
  have earlier' : T.Grants after'.world.calls := by
    cases result' with
    | error fault => exact granted'
    | ok first =>
      obtain ⟨entered', ⟨u, generation, rooted⟩, own⟩ := received
      have compared := Job.compare_keeps (E := E) entered'.sound rooted own b
      exact granted'.of_isPrefix (Books.Extends.course compared.2).calls
  obtain ⟨same, beside⟩ := looked earlier earlier'
  cases result with
  | error fault =>
    obtain rfl : result' = .error fault := same.symm
    exact ⟨rfl, beside⟩
  | ok first =>
    obtain rfl : result' = .ok first.bare := same.symm
    obtain ⟨entered', ⟨u, generation, rooted⟩, own⟩ := received
    have compared := Job.compare_agrees indifferent inhabited rooted own beside entered.1.sound.ordered entered'.sound
      (kept'.books.course entered'.entered) b granted granted'
    refine ⟨?_, compared.beside⟩
    simp only [← compared.result, Except.map_id, id]

private theorem Command.each_agrees (beside : s.Beside T view t) (kept : s.Kept) (kept' : t.Kept) (on : String)
    (side : Sequence.Side)
    (granted : T.Grants (((Command.each on side).run E load).run s).2.world.calls)
    (granted' : T.Grants (((Command.each on side).run E load).run t).2.world.calls) :
    Job.Agree T view id (((Command.each on side).run E load).run s) (((Command.each on side).run E load).run t) := by
  rw [each_apply] at granted granted' ⊢
  rw [each_apply]
  refine Session.consume_agrees (fun q => (indifferent.lockstep inhabited).drain q side)
    (fun own sound => CursorSequence.drain_produced own sound side _) (fun elements {w v} same => ?_) beside kept kept'
    on granted granted'
  simp only [same.view]

private theorem Command.collect_agrees (beside : s.Beside T view t) (kept : s.Kept) (kept' : t.Kept) (on : String)
    (granted : T.Grants (((Command.collect on).run E load).run s).2.world.calls)
    (granted' : T.Grants (((Command.collect on).run E load).run t).2.world.calls) :
    Job.Agree T view id (((Command.collect on).run E load).run s) (((Command.collect on).run E load).run t) := by
  rw [collect_apply] at granted granted' ⊢
  rw [collect_apply]
  refine Session.consume_agrees (fun q => (indifferent.lockstep inhabited).gather q .front)
    (fun own sound => CursorSequence.gather_produced own sound .front _) (fun gathered {w v} same => ?_) beside kept
    kept' on granted granted'
  simp only [same.view]

/-- Every command agrees with the same command without memory. -/
theorem Command.agrees (loads : Loads view load) {c : Command} (graph : c.OnGraph) (beside : s.Beside T view t)
    (kept : s.Kept) (kept' : t.Kept) (granted : T.Grants ((c.run E load).run s).2.world.calls)
    (granted' : T.Grants ((c.runUncached E load).run t).2.world.calls) :
    Job.Agree T view id ((c.run E load).run s) ((c.runUncached E load).run t) := by
  cases c with
  | ask on q => exact ask_agrees indifferent inhabited beside kept kept' on q granted granted'
  | equal a b => exact equal_agrees indifferent inhabited beside kept kept' a b granted granted'
  | each on side => exact each_agrees indifferent inhabited beside kept kept' on side granted granted'
  | collect on => exact collect_agrees indifferent inhabited beside kept kept' on granted granted'
  | drop on => exact drop_agrees indifferent beside kept kept' on
  | readNullString => exact graph.elim
  | _ => exact plain_agrees indifferent inhabited loads rfl beside granted granted'

end Commands

end HandleGraph
