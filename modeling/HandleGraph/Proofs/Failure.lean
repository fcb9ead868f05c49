import HandleGraph.Proofs.Memoisation
import HandleGraph.Proofs.Outstanding

/-! # Requests that fail

A request that fails leaves the graph as it was: as many indexes, units and strings are outstanding,
every unit is of its old generation, and no cell is filled. Only accessors on the way to a cursor that was
not remembered yet are operations of their own, and keep what they were answered.
-/

namespace HandleGraph

variable {σ α β : Type} {E : Engine σ} {load : Loading σ Unit}

/-! ## Questions without an answer -/

namespace Inspect

/-- Work that fills no cell when it fails. -/
def Restores (work : Inspect σ α) : Prop :=
  ∀ f, Ensures work f fun result after => (∃ e, result = .error e) →
    f.cursor.Fills (fun path cell => path = [] ∧ none = some cell) after.cursor

namespace Restores

private theorem of_fills {work : Inspect σ α} (fills : work.Fills fun path cell => path = [] ∧ none = some cell) :
    work.Restores := fun f => (fills f).mono fun _ _ filled _ => filled

/-- Work that can fail only in its first step. -/
theorem bind {first : Inspect σ α} {next : α → Inspect σ β} (restores : first.Restores)
    (succeeds : ∀ a f, Ensures (next a) f fun result _ => ∃ b, result = .ok b) : (first >>= next).Restores := by
  intro f
  apply Ensures.bind (restores f) (fun e middle restored _ => restored ⟨e, rfl⟩)
  intro a middle _
  apply (succeeds a middle).mono
  rintro _ _ ⟨b, rfl⟩ ⟨e, failed⟩
  cases failed

end Restores

end Inspect

/-- A memoised accessor that fails remembers nothing. -/
theorem Cell.call_restores (cell : Cell) : (cell.call E).Restores := by
  obtain ⟨α, wrap, recollect, keep, work, same, -⟩ := backed E cell
  intro f
  rw [same, Ensures.map_iff, Inspect.memoised_iff]
  cases recollect f.cursor.memo with
  | some a =>
    rintro ⟨e, failed⟩
    cases failed
  | none =>
    unfold Ensures
    rcases (work f.cursor).run f.world with ⟨e | a, w⟩
    · exact fun _ => .refl f.cursor
    · rintro ⟨e, failed⟩
      cases failed

private theorem Cell.accessor_restores (cell : Cell) {wrap : α → Content} {work : Inspect σ α}
    (same : cell.call E = wrap <$> work) : work.Restores := by
  intro f
  have restores := cell.call_restores (E := E) f
  rw [same, Ensures.map_iff] at restores
  apply restores.mono
  rintro _ after restored ⟨e, rfl⟩
  exact restored ⟨e, rfl⟩

/-- No question fills a cell when it fails. -/
theorem Question.ask_restores (q : Question) : (q.ask E).Restores := by
  cases q with
  | spelling => exact (Cell.accessor_restores .spelling rfl).bind fun text f => ⟨_, rfl⟩
  | displayName => exact (Cell.accessor_restores .displayName rfl).bind fun text f => ⟨_, rfl⟩
  | hash => exact (Cell.accessor_restores .hash rfl).bind fun word f => ⟨_, rfl⟩
  | link l => exact (Cell.accessor_restores (.link l) rfl).bind fun c f => ⟨_, rfl⟩
  | _ => exact .of_fills (ask_fills _)

/-! ## Commands that fail -/

/-- The cells of the accessors on the way to the cursors that a command is about. -/
def Command.Passes : Command → CursorRef → Cell → Prop
  | .ask on _ => on.Reaches none
  | .equal a b => fun ref cell => a.Reaches none ref cell ∨ b.Reaches none ref cell
  | _ => fun _ _ => False

def Command.references : Command → List CursorRef
  | .ask on _ => [on]
  | .equal a b => [a, b]
  | _ => []

/-- The cursor that a reference leads to is there already. -/
def Session.Remembers (s : Session σ) (ref : CursorRef) : Prop :=
  (s.slots.find? ref.slot >>= Object.cursor? >>= (·.follow ref.path)).isSome

/-- The slots hold what they held, but for cells that may be filled. -/
structure Session.Restored (may : CursorRef → Cell → Prop) (s after : Session σ) : Prop where
  fills : ∀ slot, s.Fills may slot after
  places : ∀ slot, (after.slots.find? slot).map Object.place = (s.slots.find? slot).map Object.place

namespace Session.Restored

variable {may more : CursorRef → Cell → Prop} {s middle after : Session σ}

private theorem of_slots (same : after.slots = s.slots) : s.Restored may after :=
  ⟨fun slot => .of_slot (by rw [same]), fun slot => by rw [same]⟩

private theorem trans (first : s.Restored may middle) (second : middle.Restored may after) : s.Restored may after :=
  ⟨fun slot => (first.fills slot).trans (second.fills slot), fun slot =>
    (second.places slot).trans (first.places slot)⟩

private theorem mono (restored : s.Restored may after) (allows : ∀ ref cell, may ref cell → more ref cell) :
    s.Restored more after :=
  ⟨fun slot => (restored.fills slot).mono allows, restored.places⟩

/-- A cursor that has filled cells on the way, put back into its slot. -/
theorem insert {on : CursorRef} {own : Option Cell} {c d : Cursor}
    (picked : s.slots.find? on.slot >>= Object.cursor? = some c)
    (worked : c.Fills (Cell.OnTheWay on.path own) d) (w : World σ) :
    s.Restored (on.Reaches own) ⟨w, s.slots.insert on.slot (.cursor d)⟩ := by
  refine ⟨fun slot => .insert picked worked w slot, fun slot => ?_⟩
  rw [SlotMap.find?_insert]
  split_ifs with here
  · obtain ⟨o, present, same⟩ := Option.bind_eq_some_iff.mp picked
    obtain rfl := Object.eq_of_cursor? same
    obtain ⟨raw, unit, generation⟩ : _ ∧ _ ∧ _ := by simpa [Cursor.place] using worked.place
    simp [here, present, Object.place, raw, unit, generation]
  · rfl

end Session.Restored

/-- Asking a cursor leaves every slot in its place, and when it fails fills cells on the way only. -/
theorem Job.inspect_restores {own : Option Cell} {work : Inspect σ α} (restores : work.Restores)
    (fills : work.Fills fun path cell => path = [] ∧ own = some cell) (on : CursorRef) (s : Session σ) :
    Ensures (inspect E on work) s fun result after => s.Restored (on.Reaches own) after ∧
      ((∃ fault, result = .error fault) → s.Restored (on.Reaches none) after) := by
  rw [inspect_iff]
  cases picked : s.slots.find? on.slot >>= Object.cursor? with
  | none => exact ⟨.of_slots rfl, fun _ => .of_slots rfl⟩
  | some c =>
    have always := Cursor.along_fills (E := E) fills on.path ⟨c, s.world⟩
    have failing := Cursor.along_fills_when (E := E) _ restores on.path ⟨c, s.world⟩
    apply (always.and failing).mono
    rintro result after ⟨worked, restored⟩
    refine ⟨.insert picked worked after.world, ?_⟩
    rintro ⟨fault, failed⟩
    refine .insert picked (restored ?_) after.world
    cases result with
    | error e => exact ⟨e, rfl⟩
    | ok a => cases failed

namespace Command

open Job LeavesSlots

/-- Comparing only fills cells on the way to either cursor. -/
theorem equal_restores (a b : CursorRef) (s : Session σ) :
    Ensures ((equal a b).run E load) s fun _ after => s.Restored (equal a b).Passes after := by
  have looked (ref : CursorRef) (s : Session σ) : Ensures (inspect E ref Inspect.receiver) s fun _ after =>
      s.Restored (ref.Reaches none) after :=
    (inspect_restores (.of_fills .receiver) .receiver ref s).mono fun _ _ => And.left
  have second {s : Session σ} {after : Session σ} (restored : s.Restored (b.Reaches none) after) :
      s.Restored (equal a b).Passes after := restored.mono fun _ _ => .inr
  apply Ensures.bind ((looked a s).mono fun _ _ restored => restored.mono fun _ _ => .inl)
    (fun _ _ first => first)
  intro c middle first
  apply Ensures.bind (looked b middle) (fun _ _ restored => first.trans (second restored))
  intro d after restored
  apply (answer_leavesSlots anyAct Reply.flag after).mono
  intro _ last left
  exact first.trans ((second restored).trans (.of_slots left.1))

/-- A command that fails fills no cells but on the way to its cursors. -/
theorem run_restores (c : Command) (s : Session σ) :
    Ensures (c.run E load) s fun result after =>
      (∃ fault, result = .error fault) → s.Restored c.Passes after := by
  cases other : c.asksOrDrops with
  | false => exact (leavesSlots other s).mono fun _ _ left _ => .of_slots left.1
  | true =>
    cases c with
    | ask on question =>
      exact (inspect_restores question.ask_restores question.ask_fills on s).mono fun _ _ => And.right
    | equal a b => exact (equal_restores a b s).mono fun _ _ restored _ => restored
    | drop on =>
      unfold run
      rw [Ensures.bind_iff, Ensures.get_iff]
      simp only
      cases s.slots.find? on <;> rintro ⟨fault, failed⟩ <;> cases failed
    | _ => cases other

end Command

/-! ## Cells on the way -/

private theorem Cursor.follow_append (c : Cursor) (path rest : List Link) :
    c.follow (path ++ rest) = c.follow path >>= (·.follow rest) := by
  induction path generalizing c with
  | nil => rfl
  | cons l path ih =>
    simp only [List.cons_append, follow_cons]
    cases c.memo.link l with
    | none => rfl
    | some d => exact ih d

/-- The links on the way to a remembered cursor are in their cells. -/
theorem Session.Remembers.content {s : Session σ} {on ref : CursorRef} {cell : Cell} (remembered : s.Remembers on)
    (onTheWay : on.Reaches none ref cell) : (s.content ref cell).isSome := by
  obtain ⟨slot, path⟩ := ref
  obtain ⟨rfl, ⟨-, own⟩ | ⟨l, rfl, rest, split⟩⟩ := onTheWay
  · cases own
  obtain ⟨e, found⟩ := Option.isSome_iff_exists.mp remembered
  rw [Option.bind_eq_bind, Option.bind_eq_some_iff] at found
  obtain ⟨c, picked, reached⟩ := found
  rw [← split, List.append_assoc, Cursor.follow_append, Option.bind_eq_bind, Option.bind_eq_some_iff] at reached
  obtain ⟨d, reached, further⟩ := reached
  rw [List.singleton_append, Cursor.follow_cons, Option.bind_eq_bind, Option.bind_eq_some_iff] at further
  obtain ⟨x, linked, -⟩ := further
  rw [Session.content, picked]
  change (c.content path (.link l)).isSome
  rw [Cursor.content, reached]
  change (d.memo.content (.link l)).isSome
  rw [Memo.content, linked]
  rfl

/-- When the cursors of a command are remembered there is nothing to fill on the way. -/
theorem Session.Restored.content_eq {c : Command} {s after : Session σ} (restored : s.Restored c.Passes after)
    (remembered : ∀ on ∈ c.references, s.Remembers on) (ref : CursorRef) (cell : Cell) :
    after.content ref cell = s.content ref cell := by
  by_cases passes : c.Passes ref cell
  · have filled : (s.content ref cell).isSome := by
      cases c with
      | ask on question => exact (remembered on (by simp [Command.references])).content passes
      | equal a b =>
        rcases passes with first | second
        · exact (remembered a (by simp [Command.references])).content first
        · exact (remembered b (by simp [Command.references])).content second
      | _ => exact passes.elim
    obtain ⟨v, here⟩ := Option.isSome_iff_exists.mp filled
    rw [here]
    exact (restored.fills ref.slot).kept ref.path cell v here
  · exact (restored.fills ref.slot).frame ref.path cell passes

/-! ## Owners in their places -/

/-- All that a cursor owns is its own unit, however often. -/
theorem Cursor.Rooted.mem_owners_iff {b : Books} {u : TranslationUnit} {generation : UInt64} {c : Cursor}
    (rooted : c.Rooted b u generation) {owner : Owner} :
    owner ∈ c.owners ↔ ∃ v, c.unit = some v ∧ owner = .unit v := by
  rw [Cursor.mem_owners_iff]
  constructor
  · rintro ⟨path, d, v, reached, there, rfl⟩
    exact ⟨v, rooted.unit_of_follow reached there, rfl⟩
  · rintro ⟨v, here, rfl⟩
    exact ⟨[], c, v, rfl, here, rfl⟩

/-- Objects in the same place own the same. -/
theorem Object.Sound.mem_owners_of_place {b : Books} {o next : Object} (sound : o.Sound b)
    (same : next.place = o.place) {owner : Owner} (own : owner ∈ o.owners) : owner ∈ next.owners := by
  cases o with
  | cursor c =>
    obtain ⟨u, generation, rooted⟩ := sound
    obtain ⟨v, here, rfl⟩ := (Cursor.Rooted.mem_owners_iff rooted).mp own
    cases next with
    | cursor d =>
      have unit : d.unit = c.unit := (Cursor.mk.inj (Object.cursor.inj same)).2.1
      exact Cursor.mem_owners_iff.mpr ⟨[], d, v, rfl, unit.trans here, rfl⟩
    | _ => cases same
  | _ =>
    cases next <;> cases same
    all_goals exact own

namespace Session

variable {s after : Session σ}

private theorem Restored.mem_owners {may : CursorRef → Cell → Prop} (restored : s.Restored may after) (sound : s.Sound)
    (sound' : after.Sound) (owner : Owner) : owner ∈ after.owners ↔ owner ∈ s.owners := by
  rw [sound.ordered.mem_owners_iff, sound'.ordered.mem_owners_iff]
  constructor
  · rintro ⟨slot, o, present, own⟩
    have there := restored.places slot
    rw [present, Option.map_some, eq_comm, Option.map_eq_some_iff] at there
    obtain ⟨old, before, same⟩ := there
    exact ⟨slot, old, before, (sound'.objects slot o present).mem_owners_of_place same own⟩
  · rintro ⟨slot, o, present, own⟩
    have there := restored.places slot
    rw [present, Option.map_some, Option.map_eq_some_iff] at there
    obtain ⟨next, later, same⟩ := there
    exact ⟨slot, next, later, (sound.objects slot o present).mem_owners_of_place same own⟩

/-! ## Requests that fail -/

/-- A session is as it was before, but for cells that may be filled. -/
structure Unchanged (may : CursorRef → Cell → Prop) (s after : Session σ) : Prop where
  /-- As many indexes, units and strings are undisposed as before. -/
  undisposed : ∀ r, outstanding after.world.calls r = outstanding s.world.calls r
  /-- Whatever was made since then has been disposed. -/
  unwound : ∃ calls, after.world.calls = s.world.calls ++ calls ∧ StringsDone calls ∧
    ∀ r, outstanding calls r = 0
  generation : ∀ u : TranslationUnit, u.generation after.world = u.generation s.world
  isStale : ∀ c : Cursor, c.isStale after.world = c.isStale s.world
  restored : s.Restored may after

/-- A request that fails leaves everything as it was, but for accessors on the way to its cursors. -/
theorem unchanged_of_failed (silent : Silent load) (kept : s.Kept) (turns : Turns s.world.calls s.owners)
    {r : Request} (graph : r.command.OnGraph) {fault : Fault} (failed : (step E load r s).1 = .error fault) :
    s.Unchanged r.command.Passes (step E load r s).2 := by
  have stepped := step_stepped (E := E) silent kept.sound r graph
  have later := kept.step (E := E) silent graph
  have laterTurns := turns_step (E := E) silent kept.sound graph turns
  have restored : s.Restored r.command.Passes (step E load r s).2 := by
    have restores : Ensures (r.command.run E load) s _ := r.command.run_restores s
    rw [Ensures] at restores
    rcases ran : (r.command.run E load).run s with ⟨other | outcome, middle⟩
    · rw [ran] at restores
      rw [step_error ran]
      exact restores ⟨other, rfl⟩
    · rw [step_ok ran] at failed
      cases failed
  obtain ⟨b, course, books⟩ := stepped.entered
  rw [failed, renewed_error] at books
  obtain rfl : b = (step E load r s).2.books := books.symm
  have grown := stepped.extends
  have undisposed (x : Resource) :
      outstanding (step E load r s).2.world.calls x = outstanding s.world.calls x := by
    cases x with
    | string t =>
      rw [(turns.done (count_string_owners s)).outstanding_eq,
        (laterTurns.done (count_string_owners _)).outstanding_eq]
    | _ =>
      exact kept.books.balanced.outstanding_same later.books.balanced grown
        (restored.mem_owners kept.sound stepped.sound) (by simp)
  have generation (u : TranslationUnit) : u.generation (step E load r s).2.world = u.generation s.world :=
    Books.Course.generation course u
  obtain ⟨calls, same⟩ : s.world.calls <+: (step E load r s).2.world.calls := grown.calls
  have done := laterTurns.done (count_string_owners _)
  rw [← same] at done
  refine ⟨undisposed, ⟨calls, same.symm, (turns.done (count_string_owners s)).of_append done, fun x => ?_⟩,
    generation, fun c => ?_, restored⟩
  · have before := undisposed x
    rw [← same] at before
    exact outstanding_of_append before
  · simp only [Cursor.isStale, generation]

end Session

/-! ## Statuses -/

/-- A result that follows a status: a success if the status is zero, and otherwise an error that carries
the very status. -/
def FollowsStatus {τ : Type} (wrap : τ → Error) (code : τ → Int32) (status : Int32)
    (result : Except Error Unit) : Prop :=
  ((∃ e, result = .error e) ↔ status ≠ 0) ∧ ∀ e, result = .error e → ∃ t, e = wrap t ∧ code t = status

private theorem followsStatus_ok {τ : Type} (wrap : τ → Error) (code : τ → Int32) :
    FollowsStatus wrap code 0 (.ok ()) := ⟨by simp, nofun⟩

private theorem followsStatus_error {τ : Type} {wrap : τ → Error} {code : τ → Int32} {status : Int32}
    (failed : status ≠ 0) {t : τ} (same : code t = status) : FollowsStatus wrap code status (.error (wrap t)) := by
  refine ⟨by simp [failed], ?_⟩
  rintro _ ⟨⟩
  exact ⟨t, rfl, same⟩

namespace TranslationUnit

variable {w : World σ} {u : TranslationUnit}

/-- A reparse asks nothing of the engine if a file cannot be handed over, and else follows the status. -/
theorem reparse_follows (files : List UnsavedFile) (options : Option ReparseOptions) :
    Ensures (u.reparse E files options) w fun result after => match Marshal.unsaved files with
      | .error e => result = .error e ∧ after = w
      | .ok native => ∃ earlier bits status,
        after.calls = earlier ++ [.asked (.reparse (u.raw w) native bits) status] ∧
          FollowsStatus .reparseFailed EngineStatus.code status result := by
  simp only [reparse, Ensures.bind_iff, Ensures.perform_iff, Ensures.settle_iff, Ensures.get_iff]
  cases Marshal.unsaved files with
  | error e => exact ⟨rfl, trivial⟩
  | ok native =>
    have same : u.raw (u.reparseBits E options w).2 = u.raw w := by cases options <;> rfl
    rcases prepared : u.reparseBits E options w with ⟨bits, middle⟩
    rw [prepared] at same
    simp only
    rw [← same]
    let status := (ask E (.reparse (u.raw middle) native bits) middle).1
    split_ifs with failed
    · exact ⟨middle.calls, bits, status, rfl, followsStatus_error failed (EngineStatus.code_ofCode _)⟩
    · refine ⟨middle.calls, bits, status, rfl, ?_⟩
      rw [show status = 0 from not_not.mp failed]
      exact followsStatus_ok _ _

private theorem save_follows (path : Bytes) :
    Ensures (u.save E path) w fun result after => match Marshal.path path with
      | .error e => result = .error e ∧ after = w
      | .ok native => ∃ earlier bits status,
        after.calls = earlier ++ [.asked (.save (u.raw w) native bits) status] ∧
          FollowsStatus (.saveFailed (Text.lossy path)) SaveStatus.code status result := by
  simp only [save, Ensures.bind_iff, Ensures.perform_iff, Ensures.settle_iff, Ensures.get_iff]
  cases Marshal.path path with
  | error e => exact ⟨rfl, trivial⟩
  | ok native =>
    obtain ⟨bits, middle⟩ := ask E (.defaultSaveOptions (u.raw w)) w
    simp only
    let status := (ask E (.save (u.raw w) native bits) middle).1
    split_ifs with failed
    · exact ⟨middle.calls, bits, status, rfl, followsStatus_error failed (SaveStatus.code_ofCode _)⟩
    · refine ⟨middle.calls, bits, status, rfl, ?_⟩
      rw [show status = 0 from not_not.mp failed]
      exact followsStatus_ok _ _

end TranslationUnit

/-- A request for a unit of a source that the engine does not know. -/
def Sample.refused : Request := ⟨.ofSource [98] [] [] ⟨0⟩, some "other"⟩

namespace Session

/-- Whatever fails leaves the graph as it was. -/
structure FailsCleanly (E : Engine σ) (load : Loading σ Unit) : Prop where
  /-- A request that fails has changed nothing, but for accessors on the way to its cursors. If these are
  there already, no cell at all is changed. -/
  request : ∀ engine requests, (∀ r ∈ requests, r.command.OnGraph) → ∀ r : Request, r.command.OnGraph →
    ∀ fault, (step E load r (after E load engine requests)).1 = .error fault →
      (after E load engine requests).Unchanged r.command.Passes
          (step E load r (after E load engine requests)).2 ∧
        ((∀ on ∈ r.command.references, (after E load engine requests).Remembers on) →
          ∀ ref cell, (step E load r (after E load engine requests)).2.content ref cell =
            (after E load engine requests).content ref cell)
  /-- A reparse fails before it asks for the status, or exactly by a status that is not zero. -/
  reparse : ∀ (w : World σ) (u : TranslationUnit) files options,
    Ensures (u.reparse E files options) w fun result after => match Marshal.unsaved files with
      | .error e => result = .error e ∧ after = w
      | .ok native => ∃ earlier bits status,
        after.calls = earlier ++ [.asked (.reparse (u.raw w) native bits) status] ∧
          FollowsStatus .reparseFailed EngineStatus.code status result
  save : ∀ (w : World σ) (u : TranslationUnit) path,
    Ensures (u.save E path) w fun result after => match Marshal.path path with
      | .error e => result = .error e ∧ after = w
      | .ok native => ∃ earlier bits status,
        after.calls = earlier ++ [.asked (.save (u.raw w) native bits) status] ∧
          FollowsStatus (.saveFailed (Text.lossy path)) SaveStatus.code status result

/-- A request that fails lets go of what it had made, so nothing is left in use, and only accessors on the way to
its cursors may have filled their cells. Reparse and save fail by a path that is refused or by the status. -/
theorem failures_change_nothing (silent : Silent load) : FailsCleanly E load where
  request engine _ graph _ here _ failed := by
    have unchanged := unchanged_of_failed silent (.after silent engine graph) (turns_after silent engine graph)
      here failed
    exact ⟨unchanged, unchanged.restored.content_eq⟩
  reparse _ u files options := u.reparse_follows files options
  save _ u path := u.save_follows path

/-- A unit that cannot be made from its source leaves no index of its own behind. -/
theorem failures_change_nothing_sample :
    (step Script.engine (pure ()) Sample.refused
        (after Script.engine (pure ()) Sample.script (Sample.requests.take 3))).1.isOk = false ∧
      .indexMade ⟨3⟩ ∈ ledger (step Script.engine (pure ()) Sample.refused
        (after Script.engine (pure ()) Sample.script (Sample.requests.take 3))).2.world.calls ∧
      outstanding (step Script.engine (pure ()) Sample.refused
        (after Script.engine (pure ()) Sample.script (Sample.requests.take 3))).2.world.calls (.index ⟨3⟩) = 0 := by
  have graph : ∀ r ∈ Sample.requests.take 3, r.command.OnGraph := fun r member =>
    Sample.requests_onGraph r (List.mem_of_mem_take member)
  have unanswered : (step Script.engine (pure ()) Sample.refused
      (after Script.engine (pure ()) Sample.script (Sample.requests.take 3))).1.isOk = false := by decide +kernel
  obtain ⟨fault, failed⟩ : ∃ fault, (step Script.engine (pure ()) Sample.refused
      (after Script.engine (pure ()) Sample.script (Sample.requests.take 3))).1 = .error fault := by
    revert unanswered
    generalize (step _ _ _ _).1 = reply
    cases reply with
    | error fault => exact fun _ => ⟨fault, rfl⟩
    | ok _ => nofun
  have unchanged := ((failures_change_nothing (E := Script.engine) silent_pure).request Sample.script
    (Sample.requests.take 3) graph Sample.refused trivial fault failed).1
  exact ⟨unanswered, by decide +kernel, (unchanged.undisposed (.index ⟨3⟩)).trans (by decide +kernel)⟩

end Session

end HandleGraph
