import HandleGraph.Proofs.Memoisation
import HandleGraph.Proofs.Sessions
import HandleGraph.Proofs.Uncached

/-! # What graphs without memory enter

A cursor without memory owns its unit once. One that is met on the way to another is owned besides until it
is let go of, so the books are kept without memory as they are with it.
-/

namespace HandleGraph

variable {σ α β : Type} {E : Engine σ} {load : Loading σ Unit} {w : World σ} {held : Multiset Owner}
  {u : TranslationUnit} {generation : UInt64}

namespace Cursor

variable {c d : Cursor}

/-- Without memory a cursor is its place. -/
theorem bare_eq : c.bare = d.bare ↔ c.place = d.place := by
  simp [bare, place]

/-- A cursor that remembers nothing is itself without memory. -/
theorem bare_of_blank (blank : c.memo = .empty) : c.bare = c := by
  obtain ⟨raw, unit, generation, memo⟩ := c
  exact congrArg (Cursor.mk raw unit generation) blank.symm

private theorem Rooted.bare {b : Books} (rooted : c.Rooted b u generation) : c.bare.Rooted b u generation := by
  cases rooted with
  | absent => exact .absent
  | position live links =>
    refine (Rooted.position live links).remember live.unit fun l d remembered => ?_
    rw [Memo.link_empty] at remembered
    cases remembered

theorem owned_bare (here : c.unit = some u) : c.bare.owned = [u] := by
  rw [bare, here]
  rfl

/-- A cursor owns its unit, with or without memory. -/
theorem own_bare (held : Multiset Owner) (here : c.unit = some u) : .unit u ∈ c.bare.owners + held := by
  rw [owners, owned_bare here]
  simp

/-- When its unit is owned, a cursor without memory may be taken for the owner. -/
theorem exists_owners_bare (own : ∀ v, c.unit = some v → .unit v ∈ held) : ∃ rest, held = c.bare.owners + rest := by
  cases here : c.unit with
  | none => exact ⟨held, by rw [owners, bare, here]; exact (zero_add held).symm⟩
  | some v =>
    obtain ⟨rest, rfl⟩ := Multiset.exists_cons_of_mem (own v here)
    refine ⟨rest, ?_⟩
    rw [owners, owned_bare here]
    rfl

/-- Calls are added when a cursor is let go of. -/
theorem calls_drop (c : Cursor) (w : World σ) : w.calls <+: (c.drop E w).2.calls := by
  have course : Books.Course (w.books, c.owners + 0) ((c.drop E w).2.books, 0) := c.drop_course
  exact (Books.Extends.course course).calls

end Cursor

/-! ## Work that looks at no memory -/

/-- Work that does not look at what the cursor remembers, and leaves it as it is. -/
def Inspect.Blind (work : Inspect σ α) : Prop :=
  ∀ c w, ∃ result after, work.run ⟨c, w⟩ = (result, ⟨c, after⟩) ∧ work.run ⟨c.bare, w⟩ = (result, ⟨c.bare, after⟩)

namespace Inspect.Blind

private theorem pure (a : α) : Blind (Pure.pure a : Inspect σ α) := fun _ w => ⟨.ok a, w, rfl, rfl⟩

private theorem lift (work : Attempt σ α) : Blind (Inspect.lift work) :=
  fun _ w => ⟨(work.run w).1, (work.run w).2, rfl, rfl⟩

private theorem made (o : Object) : Blind (Question.ask.made o : Inspect σ Outcome) :=
  fun _ w => ⟨.ok (.of o w), w, rfl, rfl⟩

private theorem bind {first : Inspect σ α} {next : α → Inspect σ β} (blind : first.Blind)
    (goesOn : ∀ a, (next a).Blind) :
    (first >>= next).Blind := by
  intro c w
  obtain ⟨e | a, middle, ran, ran'⟩ := blind c w
  · refine ⟨.error e, middle, ?_, ?_⟩
    · rw [ExceptT.run_bind, bind_apply, ran]
      rfl
    · rw [ExceptT.run_bind, bind_apply, ran']
      rfl
  · obtain ⟨result, after, later, later'⟩ := goesOn a c middle
    refine ⟨result, after, ?_, ?_⟩
    · rw [ExceptT.run_bind, bind_apply, ran]
      exact later
    · rw [ExceptT.run_bind, bind_apply, ran']
      exact later'

/-- The cursor may be looked at but for its memory. -/
theorem look {next : Cursor → Inspect σ α} (bare : ∀ c, next c.bare = next c) (goesOn : ∀ c, (next c).Blind) :
    (receiver >>= next).Blind := by
  intro c w
  obtain ⟨result, after, ran, ran'⟩ := goesOn c c w
  rw [← bare] at ran'
  exact ⟨result, after, ran, ran'⟩

/-- The books are kept without regard to memory. -/
theorem receives {work : Inspect σ α} {owners : α → Multiset Owner}
    {good : Books → TranslationUnit → UInt64 → α → Prop} (blind : work.Blind)
    (enters : Inspect.Enters work owners good) :
    Cursor.Receives work.once owners fun b u generation _ a => good b u generation a := by
  intro c w held u generation rooted own
  obtain ⟨rest, rfl⟩ := Cursor.exists_owners_bare own
  obtain ⟨result, after, ran, ran'⟩ := blind c w
  have entered := enters ⟨c.bare, w⟩ rest u generation rooted.bare
  have once : (work.once c).run w = (result, after) := by
    change ((work.run ⟨c, w⟩).1, (work.run ⟨c, w⟩).2.world) = _
    rw [ran]
  unfold EntersAt Ensures at entered
  unfold HandleGraph.Enters Ensures
  rw [ran'] at entered
  rw [once]
  cases result with
  | error e =>
    have course := entered.entered
    rwa [zero_add] at course
  | ok a => exact entered.imp_left (·.entered)

end Inspect.Blind

/-! ## Questions -/

namespace Question

/-- Questions that no memo is for do not look at it. -/
theorem ask_blind {q : Question} (free : q.cell? = none) : (q.ask E).Blind := by
  cases q with
  | spelling | displayName | hash | link => cases free
  | view => exact fun _ w => ⟨_, w, rfl, rfl⟩
  | copy => exact .look (fun _ => rfl) fun c => .bind (.lift _) fun d => .made _
  | unit =>
    refine .look (fun _ => rfl) fun c => ?_
    cases c.unit with
    | none => exact .pure _
    | some u => exact .bind (.lift _) fun v => .made _
  | kind => exact .look (fun _ => rfl) fun c => .bind (.lift _) fun kind => .bind (.lift _) fun name => .pure _
  | usr => exact .bind (.look (fun _ => rfl) fun c => .lift _) fun text => .pure _
  | test t => exact .bind (.look (fun _ => rfl) fun c => .lift _) fun flag => .pure _
  | briefComment => exact .bind (.look (fun _ => rfl) fun c => .lift _) fun text => .pure _
  | rawComment => exact .bind (.look (fun _ => rfl) fun c => .lift _) fun text => .pure _
  | bitFieldWidth => exact .bind (.look (fun _ => rfl) fun c => .lift _) fun width => .pure _
  | children => exact .bind (.look (fun _ => rfl) fun c => .lift _) fun s => .made _
  | arguments => exact .bind (.look (fun _ => rfl) fun c => .lift _) fun s => .made _

/-- A question without a cell is asked of the engine in any case. -/
theorem askEngine_of_free {q : Question} (free : q.cell? = none) (c : Cursor) :
    q.askEngine E c = Inspect.once (q.ask E) c := by
  cases q <;> first | rfl | cases free

/-- An answer that makes no object. -/
theorem answer_receives {work : Cursor → Attempt σ α}
    {good : Books → TranslationUnit → UInt64 → Cursor → α → Prop} (reply : α → Reply)
    (receives : Cursor.Receives work (fun _ => 0) good) :
    Cursor.Receives (fun c => do return ⟨reply (← work c), none⟩) Outcome.owners
      fun b u generation _ o => o.Of b u generation := by
  intro c w held u generation rooted own
  unfold Enters
  refine Ensures.bind (receives c w held u generation rooted own) (fun _ _ entered => entered) ?_
  exact fun a middle entered => ⟨entered.1, nofun⟩

/-- Whatever a cursor is asked without memory, its unit and generation are handed on. -/
theorem askEngine_receives (q : Question) :
    Cursor.Receives (fun c => q.askEngine E c) Outcome.owners fun b u generation _ o => o.Of b u generation := by
  cases cell : q.cell? with
  | none =>
    simp only [askEngine_of_free cell]
    exact (ask_blind cell).receives q.ask_enters
  | some _ =>
    cases q with
    | spelling => exact answer_receives _ (Cursor.queryText_receives .spelling)
    | displayName => exact answer_receives _ (Cursor.queryText_receives .displayName)
    | hash => exact answer_receives _ Cursor.hash_receives
    | link l =>
      intro c w held u generation rooted own
      unfold Enters
      refine Ensures.bind (Cursor.queryLink_receives l c w held u generation rooted own) (fun _ _ entered => entered) ?_
      rintro d middle ⟨entered, -, rooted⟩
      refine ⟨entered, ?_⟩
      rintro _ ⟨⟩
      exact rooted
    | _ => cases cell

end Question

/-! ## Chains of links -/

namespace Cursor

/-- On the way along a chain of links the cursors are owned, and at its end what the work has made. -/
theorem visit_receives {work : Cursor → Attempt σ α} {owners : α → Multiset Owner}
    {good : Books → TranslationUnit → UInt64 → Cursor → α → Prop} (receives : Receives work owners good)
    (handsOn : ∀ {b later u generation c d a}, b.Extends later → c.unit = some u → d.Rooted b u generation →
      good b u generation d a → good later u generation c a) (path : List Link) :
    Receives (fun c => c.visit E work path) owners good := by
  induction path with
  | nil => exact receives
  | cons l path ih =>
    intro c w held u generation rooted own
    unfold Enters visit
    refine Ensures.bind (queryLink_receives l c w held u generation rooted own) (fun _ _ entered => entered) ?_
    rintro d middle ⟨entered, here, rooted⟩
    rw [Ensures.bind_iff, Ensures.caught_iff]
    apply (ih d middle (d.owners + held) u generation rooted (Inspect.owned_of_unit held)).mono
    rintro (e | a) after visited
    · exact (entered.trans visited).trans d.drop_course
    · obtain ⟨course, good⟩ := visited
      rw [add_left_comm] at course
      have dropped : Books.Course _ ((d.drop E after).2.books, owners a + held) := d.drop_course
      exact ⟨(entered.trans course).trans dropped, handsOn (.course dropped) here
        (rooted.mono (.course course)) good⟩

/-- A copy is the cursor without memory. -/
theorem clone_eq (c : Cursor) (w : World σ) : (c.clone w).1 = c.bare := by
  obtain ⟨raw, unit, generation, memo⟩ := c
  cases unit <;> rfl

private theorem clone_receives : Receives (σ := σ) (fun c => perform c.clone) owners fun b u generation c d =>
    d.Rooted b u generation ∧ ∀ x, d.unit = some x → c.unit = some x := by
  intro c w held u generation rooted own
  obtain ⟨course, copied⟩ := clone_course rooted own
  exact ⟨course, copied, fun x here => (congrArg (·.unit) (c.clone_eq w)).symm.trans here⟩

/-- A copy of the cursor at the end of a chain of links. -/
theorem visit_clone_receives (path : List Link) :
    Receives (fun c => c.visit E (fun d => perform d.clone) path) owners fun b u generation c d =>
      d.Rooted b u generation ∧ ∀ x, d.unit = some x → c.unit = some x := by
  refine visit_receives clone_receives (fun grown here rooted good => ?_) path
  obtain ⟨copied, same⟩ := good
  refine ⟨copied.mono grown, fun x there => ?_⟩
  rw [here, (rooted.live (same x there)).unit.symm.trans (same x there)]

theorem visit_ask_receives (q : Question) (path : List Link) :
    Receives (fun c => c.visit E (fun d => q.askEngine E d) path) Outcome.owners
      fun b u generation _ o => o.Of b u generation :=
  visit_receives q.askEngine_receives (fun grown _ _ of x made => (of x made).mono grown) path

end Cursor

/-! ## Jobs -/

namespace Job

variable {s : Session σ}

private theorem visit_iff {ref : CursorRef} {work : Cursor → Attempt σ α} {post : Except Fault α → Session σ → Prop} :
    Ensures (visit E ref work) s post ↔ match s.slots.find? ref.slot >>= Object.cursor? with
      | some c => Ensures (c.visit E work ref.path) s.world fun result w =>
        post (result.mapError .failed) { s with world := w }
      | none => post (.error (.misused ref.slot)) s := by
  rw [visit, Ensures.bind_iff, held_iff]
  cases s.slots.find? ref.slot >>= Object.cursor? <;> exact Iff.rfl

/-- What a visit to a cursor in a slot enters, whatever is owned besides. -/
theorem visit_received {work : Cursor → Attempt σ α} {owners : α → Multiset Owner}
    {good : Books → TranslationUnit → UInt64 → Cursor → α → Prop} (sound : s.Sound) (extra : Multiset Owner)
    (ref : CursorRef) (receives : Cursor.Receives (fun c => c.visit E work ref.path) owners good) :
    Ensures (visit E ref work) s fun result after => after.slots = s.slots ∧ match result with
      | .ok a => Books.Course (s.books, extra + s.owners) (after.books, owners a + (extra + s.owners)) ∧
        ∃ c u generation, s.slots.find? ref.slot = some (.cursor c) ∧ good after.books u generation c a
      | .error _ => Books.Course (s.books, extra + s.owners) (after.books, extra + s.owners) := by
  rw [visit_iff]
  cases picked : s.slots.find? ref.slot >>= Object.cursor? with
  | none => exact ⟨rfl, .refl⟩
  | some c =>
    obtain ⟨o, present, picked⟩ := Option.bind_eq_some_iff.mp picked
    obtain rfl := Object.eq_of_cursor? picked
    obtain ⟨u, generation, rooted⟩ := sound.objects _ _ present
    have own (v : TranslationUnit) (here : c.unit = some v) : .unit v ∈ extra + s.owners :=
      Multiset.mem_add.mpr (.inr (sound.mem_owners present (Cursor.mem_owners_iff.mpr ⟨[], c, v, rfl, here, rfl⟩)))
    apply (receives c s.world (extra + s.owners) u generation rooted own).mono
    rintro (e | a) w entered
    · exact ⟨rfl, entered⟩
    · exact ⟨rfl, entered.1, c, u, generation, present, entered.2⟩

private theorem visit_enters {work : Cursor → Attempt σ α} {owners : α → Multiset Owner}
    {good : Books → TranslationUnit → UInt64 → Cursor → α → Prop} (sound : s.Sound) (ref : CursorRef)
    (receives : Cursor.Receives (fun c => c.visit E work ref.path) owners good) :
    Enters (visit E ref work) s owners fun b a => ∃ c u generation, s.slots.find? ref.slot = some (.cursor c) ∧
      good b u generation c a := by
  have received := visit_received sound 0 ref receives
  simp only [zero_add] at received
  apply received.mono
  rintro (e | a) ⟨w, _⟩ ⟨rfl, entered⟩
  · exact .world_same sound entered
  · exact ⟨.world sound entered.1, entered.2⟩

/-- A copy of a cursor in a slot, or of one that it leads to, is of a unit that the slots own. -/
theorem visit_copies (sound : s.Sound) (ref : CursorRef) :
    Ensures (visit E ref fun c => perform c.clone) s fun result after => match result with
      | .ok d => Entered s d.owners after ∧ (∃ u generation, d.Rooted after.books u generation) ∧
        ∀ x, d.unit = some x → .unit x ∈ after.owners
      | .error _ => Entered s 0 after := by
  have visited := (visit_enters (E := E) sound ref (Cursor.visit_clone_receives ref.path)).and
    (visit_received (E := E) sound 0 ref (Cursor.visit_clone_receives ref.path))
  apply visited.mono
  rintro (e | d) after ⟨entered, slots, -⟩
  · exact entered
  · obtain ⟨entered, c, u, generation, present, rooted, same⟩ := entered
    have present : after.slots.find? ref.slot = some (.cursor c) := by
      rw [slots]
      exact present
    refine ⟨entered, ⟨u, generation, rooted⟩, fun x here => ?_⟩
    exact entered.sound.mem_owners present (Cursor.mem_owners_iff.mpr ⟨[], c, x, rfl, same x here, rfl⟩)

/-- The second cursor is copied only after the first, which is let go of when that fails. -/
theorem compare_apply (first : Cursor) (ref : CursorRef) (s : Session σ) :
    (compare E first ref).run s = match (visit E ref fun d => perform d.clone).run s with
      | (.ok second, after) => (.ok (first.equal E second after.world).1,
          { after with world := (second.drop E (first.drop E (first.equal E second after.world).2).2).2 })
      | (.error fault, after) => (.error fault, { after with world := (first.drop E after.world).2 }) := by
  have caught (work : Job σ Cursor) :
      (ExceptT.lift work.run : Job σ (Except Fault Cursor)).run s = (.ok (work.run s).1, (work.run s).2) := rfl
  rw [compare, ExceptT.run_bind, bind_apply, caught]
  rcases (visit E ref fun d => perform d.clone).run s with ⟨e | second, after⟩ <;> rfl

/-- To compare a cursor with another is to let go of it, and of a copy of the other. -/
theorem compare_keeps (sound : s.Sound) {first : Cursor} (rooted : first.Rooted s.books u generation)
    (own : ∀ x, first.unit = some x → .unit x ∈ s.owners) (ref : CursorRef) :
    Ensures (compare E first ref) s fun _ after => after.slots = s.slots ∧
      Books.Course (s.books, first.owners + s.owners) (after.books, s.owners) := by
  have received := visit_received (E := E) sound first.owners ref (Cursor.visit_clone_receives ref.path)
  unfold Ensures at received ⊢
  rw [compare_apply]
  generalize (visit E ref fun d => perform d.clone).run s = found at received ⊢
  obtain ⟨e | second, after⟩ := found <;> obtain ⟨slots, entered⟩ := received
  · exact ⟨slots, entered.trans first.drop_course⟩
  · obtain ⟨course, c, v, other, -, copied, -⟩ := entered
    have both (x : TranslationUnit) (here : first.unit = some x ∨ second.unit = some x) :
        .unit x ∈ second.owners + (first.owners + s.owners) := by
      rcases here with here | here
      · exact Multiset.mem_add.mpr (.inr (Multiset.mem_add.mpr (.inr (own x here))))
      · exact Inspect.owned_of_unit _ x here
    have compared := Cursor.equal_course (E := E) (rooted.mono (.course course)) copied both
    rw [add_left_comm] at compared course
    exact ⟨slots, ((course.trans compared).trans first.drop_course).trans second.drop_course⟩

end Job

/-! ## Commands and requests -/

namespace Command

variable {s : Session σ}

theorem askUncached_enters (sound : s.Sound) (on : CursorRef) (question : Question) :
    Job.Enters ((ask on question).runUncached E load) s Outcome.owners fun b o => ∀ x, o.made = some x → x.Sound b := by
  apply (Job.visit_enters (E := E) sound on (Cursor.visit_ask_receives question on.path)).mono
  rintro (e | o) after entered
  · exact entered
  · obtain ⟨entered, c, u, generation, -, of⟩ := entered
    exact ⟨entered, fun x made => ⟨u, generation, of x made⟩⟩

/-- When two cursors are compared, nothing that was owned for it is left. -/
theorem equalUncached_enters (sound : s.Sound) (a b : CursorRef) :
    Job.Enters ((equal a b).runUncached E load) s Outcome.owners fun b o => ∀ x, o.made = some x → x.Sound b := by
  refine Ensures.bind (Job.visit_copies (E := E) sound a) (fun _ _ entered => entered) ?_
  rintro first middle ⟨entered, ⟨u, generation, rooted⟩, own⟩
  have compared := Job.compare_keeps (E := E) entered.sound rooted own b
  have through {after : Session σ} (kept : after.slots = middle.slots ∧
      Books.Course (middle.books, first.owners + middle.owners) (after.books, middle.owners)) :
      Job.Entered s 0 after := by
    obtain ⟨same, course⟩ := kept
    obtain ⟨w, _⟩ := after
    obtain rfl := same
    refine ⟨?_, ⟨entered.sound.ordered, fun slot o there => ?_⟩, entered.continues⟩
    · rw [zero_add]
      exact entered.entered.trans course
    · exact (entered.sound.objects slot o there).mono (.course course)
  refine Ensures.bind compared (fun _ _ kept => through kept) fun flag after kept => ⟨through kept, nofun⟩

end Command

namespace Session

variable {s : Session σ}

/-- What a command has made is kept, or let go of. -/
theorem conclude_enters (sound : s.Sound) (into : Option String) {result : Except Fault Outcome}
    (new : ∀ o x, result = .ok o → o.made = some x → x.Sound s.books) :
    Books.Course (s.books, result.toOption.elim 0 Outcome.owners + s.owners)
        ((conclude E into result s).2.books, (conclude E into result s).2.owners) ∧
      (conclude E into result s).2.Sound := by
  have same : Books.Course (s.books, 0 + s.owners) (s.books, s.owners) := by
    rw [zero_add]
  cases result with
  | error fault => exact ⟨same, sound⟩
  | ok outcome =>
    obtain ⟨reply, made⟩ := outcome
    cases made with
    | none => exact ⟨same, sound⟩
    | some o => exact keep_enters sound (new _ o rfl rfl) into

/-- The books are kept without memory, and go on. -/
theorem Kept.stepUncached (kept : s.Kept) (silent : Silent load) {r : Request} (graph : r.command.OnGraph) :
    (stepUncached E load r s).2.Kept ∧ s.books.Extends (stepUncached E load r s).2.books := by
  have concluded (asked : Job.Enters (r.command.runUncached E load) s Outcome.owners
      fun b o => ∀ x, o.made = some x → x.Sound b) :
      (Session.stepUncached E load r s).2.Kept ∧ s.books.Extends (Session.stepUncached E load r s).2.books := by
    unfold Session.stepUncached
    rw [bind_apply]
    unfold Job.Enters Ensures at asked
    generalize (r.command.runUncached E load).run s = found at asked ⊢
    obtain ⟨result, after⟩ := found
    have entered : Job.Entered s (result.toOption.elim 0 Outcome.owners) after := by
      cases result with
      | error fault => exact asked
      | ok outcome => exact asked.1
    have new (o : Outcome) (x : Object) (here : result = .ok o) (made : o.made = some x) : x.Sound after.books := by
      subst here
      exact asked.2 x made
    obtain ⟨course, sound⟩ := conclude_enters (E := E) entered.sound r.into new
    have whole := entered.entered.trans course
    exact ⟨⟨sound, kept.books.course whole⟩, .course whole⟩
  obtain ⟨command, into⟩ := r
  cases command with
  | ask on question => exact concluded (Command.askUncached_enters kept.sound on question)
  | equal a b => exact concluded (Command.equalUncached_enters kept.sound a b)
  | _ => exact ⟨kept.step silent graph, (step_stepped silent kept.sound _ graph).extends⟩

def afterUncached (E : Engine σ) (load : Loading σ Unit) (engine : σ) (requests : List Request) : Session σ :=
  ((runUncached E load requests).run (start engine)).2

end Session

end HandleGraph
