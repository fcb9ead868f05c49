import HandleGraph.Proofs.NullCursors

/-! # Equality of cursors

The engine compares cursors by their handles. Only between two null cursors it is not asked: they have one
handle, and are equal. So whatever relation an engine compares handles by, cursors are compared by it, be they
null or not, of one unit or of several, fresh or stale; and they are told apart by nothing else.
-/

namespace HandleGraph

variable {σ : Type} {E : Engine σ} {load : Loading σ Unit}

def Engine.ComparesBy (E : Engine σ) (R : CursorHandle → CursorHandle → Prop) (state : σ) : Prop :=
  ∀ a b, (E.answer (.equalCursors a b) state).1 = true ↔ R a b

namespace Cursor

/-- A cursor that comes up in some session over an engine. -/
def Reachable (E : Engine σ) (load : Loading σ Unit) (c : Cursor) : Prop :=
  ∃ s : Session σ, s.Reached E load ∧ s.HandsOut E load c

private theorem Reachable.proper (silent : Silent load) {c : Cursor} (reachable : c.Reachable E load) : c.Proper := by
  obtain ⟨s, reached, out⟩ := reachable
  exact out.proper silent (reached.sound silent)

namespace Proper

variable {c d : Cursor} {w : World σ}

/-- Two cursors are compared by the engine unless both are null. -/
theorem equal_eq (first : c.Proper) (second : d.Proper) :
    c.equal E d = if c.isNull ∧ d.isNull then pure true else ask E (.equalCursors c.raw d.raw) := by
  cases first with
  | null =>
    cases second with
    | null => rfl
    | position valid u generation memo => simp [equal, isNull, valid, Cursor.null]
  | position valid u generation memo => simp [equal, isNull, valid]

/-- Cursors with the same handle are null together. -/
theorem isNull_eq_raw (proper : c.Proper) : c.isNull = c.raw.isNull := by
  cases proper with
  | null => rfl
  | position valid u generation memo => simp [isNull]

/-- An engine that compares by an equivalence has cursors compared by it, the null ones included. -/
theorem equal_iff (first : c.Proper) (second : d.Proper) {R : CursorHandle → CursorHandle → Prop}
    (equivalence : Equivalence R) (compares : E.ComparesBy R w.engine) :
    (c.equal E d w).1 = true ↔ R c.raw d.raw := by
  rw [first.equal_eq second]
  split_ifs with null
  · obtain rfl := first.isNull_iff.mp null.1
    obtain rfl := second.isNull_iff.mp null.2
    exact ⟨fun _ => equivalence.refl _, fun _ => rfl⟩
  · exact compares c.raw d.raw

end Proper

end Cursor

/-- To compare two remembered cursors is to ask for the answer, and changes nothing else in the session. -/
theorem Session.step_equal {s : Session σ} {a b : CursorRef} {c d : Cursor} (first : s.cursor? a = some c)
    (second : s.cursor? b = some d) (into : Option String) :
    (step E load ⟨.equal a b, into⟩ s).1 = .ok (.flag (c.equal E d s.world).1) ∧
      (step E load ⟨.equal a b, into⟩ s).2.world = (c.equal E d s.world).2 ∧
      ∀ slot, (step E load ⟨.equal a b, into⟩ s).2.slots.find? slot = s.slots.find? slot := by
  have looked {s : Session σ} {ref : CursorRef} {c : Cursor} (found : s.cursor? ref = some c) :
      Ensures (Job.inspect E ref Inspect.receiver) s fun result after =>
        result = .ok c ∧ after.world = s.world ∧ ∀ slot, after.slots.find? slot = s.slots.find? slot := by
    apply (Job.inspect_still (fun result w => result = .ok c ∧ w = s.world) found ⟨rfl, rfl, rfl⟩).mono
    rintro _ after ⟨slots, _, rfl, rfl, world⟩
    exact ⟨rfl, world, slots⟩
  have compared : Ensures ((Command.equal a b).run E load) s fun result after =>
      result = .ok ⟨.flag (c.equal E d s.world).1, none⟩ ∧ after.world = (c.equal E d s.world).2 ∧
        ∀ slot, after.slots.find? slot = s.slots.find? slot := by
    unfold Command.run
    refine Ensures.bind (looked first) (fun _ _ failed => nomatch failed.1) ?_
    rintro _ middle ⟨⟨⟩, world, slots⟩
    have still : middle.cursor? b = some d := by rwa [cursor?, slots]
    refine Ensures.bind (looked still) (fun _ _ failed => nomatch failed.1) ?_
    rintro _ after ⟨⟨⟩, unchanged, kept⟩
    rw [Ensures.bind_iff, Job.act_iff, unchanged, world]
    exact ⟨rfl, rfl, fun slot => (kept slot).trans (slots slot)⟩
  obtain ⟨answered, world, slots⟩ := compared
  rcases ran : ((Command.equal a b).run E load).run s with ⟨result, after⟩
  rw [ran] at answered world slots
  obtain rfl : result = .ok ⟨.flag (c.equal E d s.world).1, none⟩ := answered
  rw [step_ok ran]
  exact ⟨rfl, world, slots⟩

/-- How cursors are compared that come up over an engine. -/
structure Cursor.ComparedByHandle (E : Engine σ) (load : Loading σ Unit) : Prop where
  /-- Any two null cursors are equal, and the engine is not asked. -/
  nulls : ∀ c d : Cursor, c.Reachable E load → d.Reachable E load → c.isNull → d.isNull →
    ∀ w, c.equal E d w = (true, w)
  /-- Any other comparison is one call, with the operands in their order. -/
  asked : ∀ c d : Cursor, c.Reachable E load → d.Reachable E load → ¬(c.isNull ∧ d.isNull) → ∀ w answer engine,
    E.answer (.equalCursors c.raw d.raw) w.engine = (answer, engine) →
      c.equal E d w = (answer, w.noted engine [.asked (.equalCursors c.raw d.raw) answer] [])
  /-- Nothing but the handles counts, with any engine. -/
  handles : ∀ c d c' d' : Cursor, c.Reachable E load → d.Reachable E load → c'.Reachable E load →
    d'.Reachable E load → c'.raw = c.raw → d'.raw = d.raw → ∀ w, c'.equal E d' w = c.equal E d w
  /-- By whatever equivalence the engine compares handles, cursors are compared by it. -/
  relation : ∀ R, Equivalence R → ∀ w : World σ, E.ComparesBy R w.engine → ∀ c d : Cursor, c.Reachable E load →
    d.Reachable E load → ((c.equal E d w).1 = true ↔ R c.raw d.raw)
  equivalence : ∀ R, Equivalence R → ∀ w : World σ, E.ComparesBy R w.engine →
    Equivalence fun c d : { c : Cursor // c.Reachable E load } => (c.1.equal E d.1 w).1 = true
  /-- The operands can be swapped, also between two comparisons in worlds that differ. -/
  swapped : ∀ R, Equivalence R → ∀ w w' : World σ, E.ComparesBy R w.engine → E.ComparesBy R w'.engine →
    ∀ c d : Cursor, c.Reachable E load → d.Reachable E load → (d.equal E c w').1 = (c.equal E d w).1
  /-- A request to compare cursors answers so and does nothing else. -/
  requested : ∀ (s : Session σ) a b c d, s.cursor? a = some c → s.cursor? b = some d → ∀ into,
    (Session.step E load ⟨.equal a b, into⟩ s).1 = .ok (.flag (c.equal E d s.world).1) ∧
      (Session.step E load ⟨.equal a b, into⟩ s).2.world = (c.equal E d s.world).2 ∧
      ∀ slot, (Session.step E load ⟨.equal a b, into⟩ s).2.slots.find? slot = s.slots.find? slot

/-- In all sessions over an engine, cursors are compared by their handles alone. -/
theorem Cursor.compared_by_handle (silent : Silent load) : ComparedByHandle E load := by
  have relation : ∀ R, Equivalence R → ∀ w : World σ, E.ComparesBy R w.engine → ∀ c d : Cursor,
      c.Reachable E load → d.Reachable E load → ((c.equal E d w).1 = true ↔ R c.raw d.raw) :=
    fun R equivalence w compares c d first second =>
      (first.proper silent).equal_iff (second.proper silent) equivalence compares
  constructor
  case nulls =>
    intro c d first second null absent w
    rw [(first.proper silent).equal_eq (second.proper silent), if_pos ⟨null, absent⟩]
    rfl
  case asked =>
    intro c d first second valid w answer engine answered
    rw [(first.proper silent).equal_eq (second.proper silent), if_neg valid, ask_eq_noted, answered]
  case handles =>
    intro c d c' d' first second first' second' same other w
    rw [(first.proper silent).equal_eq (second.proper silent),
      (first'.proper silent).equal_eq (second'.proper silent), (first.proper silent).isNull_eq_raw,
      (second.proper silent).isNull_eq_raw, (first'.proper silent).isNull_eq_raw,
      (second'.proper silent).isNull_eq_raw, same, other]
  case relation => exact relation
  case equivalence =>
    intro R equivalence w compares
    have same : (fun c d : { c : Cursor // c.Reachable E load } => (c.1.equal E d.1 w).1 = true) =
        InvImage R (·.1.raw) := by
      funext c d
      exact propext (relation R equivalence w compares c d c.2 d.2)
    rw [same]
    exact InvImage.equivalence R _ equivalence
  case swapped =>
    intro R equivalence w w' compares compares' c d first second
    rw [Bool.eq_iff_iff, relation R equivalence w' compares' d c second first,
      relation R equivalence w compares c d first second]
    exact ⟨equivalence.symm, equivalence.symm⟩
  case requested => exact fun s a b c d first second into => Session.step_equal first second into

/-- The root of a unit is equal to itself and apart from the null cursor that it refers to, which is equal to
itself without the engine. -/
theorem Cursor.compared_by_handle_dangling :
    let s := Session.after Script.engine (pure ()) Sample.dangling Sample.askReferenced
    Silent (pure () : Loading Script.State Unit) ∧ Script.engine.ComparesBy Eq s.world.engine ∧
      ∃ root absent, s.cursor? ⟨"root", []⟩ = some root ∧ s.cursor? ⟨"root", [.referenced]⟩ = some absent ∧
        (root.equal Script.engine root s.world).1 = true ∧
        ¬(root.equal Script.engine absent s.world).1 = true ∧
        absent.equal Script.engine absent s.world = (true, s.world) := by
  intro s
  obtain ⟨root, found, valid⟩ : ∃ c, s.cursor? ⟨"root", []⟩ = some c ∧ c.raw.isNull = false :=
    Option.map_eq_some_iff.mp (by decide +kernel)
  obtain ⟨absent, missing, null⟩ : ∃ c, s.cursor? ⟨"root", [.referenced]⟩ = some c ∧ c.raw.isNull = true :=
    Option.map_eq_some_iff.mp (by decide +kernel)
  have compares : Script.engine.ComparesBy Eq s.world.engine := by
    have raw : s.world.engine.equality = .raw := by decide +kernel
    have answered (state : Script.State) (a b : CursorHandle) :
        (Script.engine.answer (.equalCursors a b) state).1 = state.equal a b := rfl
    intro a b
    rw [answered, Script.State.equal, raw]
    exact beq_iff_eq
  have laws := compared_by_handle (E := Script.engine) silent_pure
  have reached : s.Reached Script.engine (pure ()) := .after Sample.dangling Sample.askReferenced
  have first : root.Reachable Script.engine (pure ()) := ⟨s, reached, .held found⟩
  have second : absent.Reachable Script.engine (pure ()) := ⟨s, reached, .held missing⟩
  have nothing : absent.isNull := by rw [isNull, null]; rfl
  have relation := laws.relation Eq eq_equivalence s.world compares
  refine ⟨silent_pure, compares, root, absent, found, missing, (relation root root first first).mpr rfl, ?_,
    laws.nulls absent absent second second nothing nothing s.world⟩
  intro equal
  rw [(relation root absent first second).mp equal, null] at valid
  cases valid

end HandleGraph
