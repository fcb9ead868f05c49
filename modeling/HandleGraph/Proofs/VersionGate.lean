import HandleGraph.Proofs.KindNames
import HandleGraph.Proofs.Loading
import HandleGraph.Proofs.NullCursors
import HandleGraph.Script.Library

/-! # The version gate

Whatever needs an engine of its own has the library found first, which is no call of it, and then looks at its
version. Looking takes three calls: the version string is received, read and disposed. A release that is too old
ends the request there, with nothing made; a release that is new enough lets the request go on as if nothing had
been looked at.

A session that is refused its first library holds no more than null cursors, and these need no engine. So as
long as the library says the same, it is only ever looked at, once for every request that would load it.
-/

namespace HandleGraph

variable {σ τ α β : Type}

/-! ## Sessions of null cursors -/

/-- Slots that hold null cursors at most. -/
def Vacant (m : SlotMap Object) : Prop := ∀ slot o, m.find? slot = some o → o = .cursor .null

namespace Vacant

variable {m : SlotMap Object}

private theorem empty : Vacant .empty := nofun

private theorem insert (vacant : Vacant m) (slot : String) : Vacant (m.insert slot (.cursor .null)) := by
  intro other o present
  rw [SlotMap.find?_insert] at present
  split at present
  · exact (Option.some.inj present).symm
  · exact vacant other o present

private theorem erase (vacant : Vacant m) (slot : String) : Vacant (m.erase slot) := by
  intro other o present
  rw [SlotMap.find?_erase] at present
  split at present
  · cases present
  · exact vacant other o present

end Vacant

/-- A command has made null cursors at most. -/
def Outcome.Void (outcome : Outcome) : Prop := ∀ o ∈ outcome.made, o = .cursor .null

/-- Asked anything, the null cursor and the world stay as they are, and no other object is made. -/
theorem Question.ask_null_idle (E : Engine σ) (q : Question) (w : World σ) :
    Ensures (q.ask E) ⟨.null, w⟩ fun result after => after = ⟨.null, w⟩ ∧
      ∀ outcome, result = .ok outcome → outcome.Void := by
  cases needs : q.operation? with
  | some operation =>
    rw [Ensures, q.ask_null E needs]
    exact ⟨rfl, by rintro _ ⟨⟩⟩
  | none =>
    cases q with
    | view | unit => exact ⟨rfl, by rintro _ ⟨⟩ _ ⟨⟩⟩
    | copy => exact ⟨rfl, by rintro _ ⟨⟩ _ ⟨⟩; rfl⟩
    | kind =>
      rw [Ensures, Cursor.ask_kind]
      -- Whatever the registry says, nothing is made, so it is not looked into.
      generalize CursorKind.ofValue? _ = found
      cases found with
      | error e => exact ⟨rfl, by rintro _ ⟨⟩⟩
      | ok k => exact ⟨rfl, by rintro _ ⟨⟩ _ ⟨⟩⟩
    | _ => cases needs

namespace Job

/-- Work that leaves the world of null cursors as it is, with a result of some sort. -/
def Idles (P : α → Prop) (work : Job σ α) : Prop :=
  ∀ s : Session σ, Vacant s.slots → Ensures work s fun result after =>
    after.world = s.world ∧ Vacant after.slots ∧ ∀ a, result = .ok a → P a

namespace Idles

variable {P : α → Prop} {Q : β → Prop}

private theorem pure {a : α} (here : P a) : Idles P (Pure.pure a : Job σ α) :=
  fun _ vacant => ⟨rfl, vacant, fun _ same => Except.ok.inj same ▸ here⟩

private theorem bind {work : Job σ α} {next : α → Job σ β} (first : Idles P work)
    (goesOn : ∀ a, P a → Idles Q (next a)) :
    Idles Q (work >>= next) := by
  intro s vacant
  apply Ensures.bind (first s vacant)
  · rintro e middle ⟨world, still, -⟩
    exact ⟨world, still, nofun⟩
  · rintro a middle ⟨world, still, here⟩
    exact world ▸ goesOn a (here a rfl) middle still

private theorem get : Idles (fun s : Session σ => Vacant s.slots) MonadState.get :=
  fun _ vacant => ⟨rfl, vacant, fun _ same => Except.ok.inj same ▸ vacant⟩

private theorem act {work : Action σ α} (quiet : ∀ w, (work w).2 = w) (gives : ∀ w, P (work w).1) :
    Idles P (act work) :=
  fun s vacant => ⟨quiet s.world, vacant, fun _ same => Except.ok.inj same ▸ gives s.world⟩

/-- An answer that makes nothing. -/
theorem answer {work : Action σ α} (quiet : ∀ w, (work w).2 = w) (reply : α → Reply) :
    Idles Outcome.Void (do return ⟨reply (← Job.act work), none⟩) :=
  (act (P := fun _ => True) quiet fun _ => trivial).bind fun _ _ => pure nofun

private theorem present {o : Object} (null : o = .cursor .null) : Idles (σ := σ) Outcome.Void (present o) :=
  get.bind fun _ _ => pure fun _ made => Option.some.inj made ▸ null

/-- A slot is empty or holds a null cursor. -/
theorem held (slot : String) (pick : Object → Option α) :
    Idles (σ := σ) (fun a => pick (.cursor .null) = some a) (held slot pick) := by
  intro s vacant
  rw [held_iff]
  cases picked : s.slots.find? slot >>= pick with
  | none => exact ⟨rfl, vacant, nofun⟩
  | some a =>
    obtain ⟨o, present, picked⟩ := Option.bind_eq_some_iff.mp picked
    obtain rfl := vacant slot o present
    exact ⟨rfl, vacant, fun _ same => Except.ok.inj same ▸ picked⟩

/-- Work that needs another object than a cursor finds none. -/
theorem misses {slot : String} {pick : Object → Option α} {next : α → Job σ β} (none : pick (.cursor .null) = none) :
    Idles Q (Job.held slot pick >>= next) :=
  (held slot pick).bind fun a picked => by rw [none] at picked; cases picked

/-- Links do not lead on from a null cursor. -/
theorem inspect (E : Engine σ) (ref : CursorRef) {work : Inspect σ α}
    (inert : ∀ w, Ensures work ⟨.null, w⟩ fun result after => after = ⟨.null, w⟩ ∧ ∀ a, result = .ok a → P a) :
    Idles P (inspect E ref work) := by
  intro s vacant
  have along : Ensures (Cursor.along E ref.path work) ⟨.null, s.world⟩ fun result after =>
      after = ⟨.null, s.world⟩ ∧ ∀ a, result = .ok a → P a := by
    cases ref.path with
    | nil => exact inert s.world
    | cons l rest => cases l <;> exact ⟨rfl, nofun⟩
  rw [inspect_iff]
  cases picked : s.slots.find? ref.slot >>= Object.cursor? with
  | none => exact ⟨rfl, vacant, nofun⟩
  | some c =>
    obtain ⟨o, present, picked⟩ := Option.bind_eq_some_iff.mp picked
    obtain rfl := vacant ref.slot o present
    cases picked
    apply along.mono
    rintro (e | a) _ ⟨rfl, here⟩
    · exact ⟨rfl, vacant.insert ref.slot, nofun⟩
    · exact ⟨rfl, vacant.insert ref.slot, fun _ same => Except.ok.inj same ▸ here a rfl⟩

end Idles

end Job

def Command.loads : Command → Bool
  | .createIndex _ | .ofSource .. | .ofAstFile _ => true
  | _ => false

open Job in
/-- Where there are null cursors only, a command that loads no engine does not use any. -/
theorem Command.run_idles (E : Engine σ) (load : Loading σ Unit) {c : Command} (still : c.loads = false) :
    Idles Outcome.Void (c.run E load) := by
  cases c with
  | createIndex | ofSource | ofAstFile => cases still
  | parse | read | unitIndex | unitSpelling | generation | root | getFile | reparse | save | fileName | fileTime
  | fileDisplay | fileUnit | access | each | collect | readNullString => exact .misses rfl
  | nullCursor => exact .present rfl
  | ask on question => exact .inspect E on (question.ask_null_idle E)
  | equal a b =>
    have received (ref : CursorRef) : Idles (· = Cursor.null) (Job.inspect E ref Inspect.receiver) :=
      .inspect E ref fun w => ⟨rfl, by rintro _ ⟨⟩; rfl⟩
    refine (received a).bind ?_
    rintro _ rfl
    refine (received b).bind ?_
    rintro _ rfl
    exact .answer (fun w => rfl) .flag
  | clone on =>
    refine (Idles.held on Object.clone?).bind ?_
    rintro _ ⟨⟩
    refine (Idles.act (P := (· = .cursor .null)) (fun w => rfl) fun w => rfl).bind ?_
    rintro _ rfl
    exact .pure fun _ made => (Option.some.inj made).symm
  | drop on =>
    refine Idles.get.bind fun s vacant => ?_
    cases present : s.slots.find? on with
    | none => exact .pure nofun
    | some o =>
      obtain rfl := vacant on o present
      refine Idles.bind (P := fun _ => True) (fun t vacant => ?_) fun _ _ => .answer (fun w => rfl) fun _ => .flag true
      exact ⟨rfl, vacant.erase on, fun _ _ => trivial⟩
  | same a b =>
    refine (Idles.held a some).bind ?_
    rintro _ ⟨⟩
    exact .misses rfl
  | describe on =>
    refine (Idles.held on some).bind ?_
    rintro _ ⟨⟩
    exact .answer (fun w => rfl) .text

/-- Loading leaves the slots of a session as they are. -/
theorem Job.load_apply (loading : Loading σ Unit) (s : Session σ) : (Job.load loading).run s =
    ((loading.run s.world).1.mapError LoadFault.fault, { s with world := (loading.run s.world).2 }) := rfl

namespace Command

variable {E : Engine σ} {load : Loading σ Unit} {s : Session σ} {c : Command}

/-- A command that loads its engine does so first. -/
theorem run_of_loads (loads : c.loads = true) : c.run E load = (do Job.load load; c.run E (pure ())) := by
  cases c with
  | createIndex | ofSource | ofAstFile => rfl
  | _ => cases loads

private theorem run_of_load_error (loads : c.loads = true) {fault : LoadFault} {w : World σ}
    (failed : load.run s.world = (.error fault, w)) :
    (c.run E load).run s = (.error fault.fault, { s with world := w }) := by
  have ran : (Job.load load).run s = (.error fault.fault, { s with world := w }) := by
    rw [Job.load_apply, failed]
    rfl
  rw [run_of_loads loads, ExceptT.run_bind, bind_apply, ran]
  rfl

private theorem run_of_load_ok (loads : c.loads = true) {w : World σ} (loaded : load.run s.world = (.ok (), w)) :
    (c.run E load).run s = (c.run E (pure ())).run { s with world := w } := by
  have ran : (Job.load load).run s = (.ok (), { s with world := w }) := by
    rw [Job.load_apply, loaded]
    rfl
  rw [run_of_loads loads, ExceptT.run_bind, bind_apply, ran]

end Command

namespace Session

variable {E : Engine σ} {load : Loading σ Unit} {s : Session σ} {r : Request}

/-- A request that loads no engine leaves a session of null cursors as it is. -/
theorem step_idles (E : Engine σ) (load : Loading σ Unit) (vacant : Vacant s.slots) (still : r.command.loads = false) :
    (step E load r s).2.world = s.world ∧ Vacant (step E load r s).2.slots := by
  have ran := Command.run_idles E load still s vacant
  rw [Ensures] at ran
  rcases came : (r.command.run E load).run s with ⟨fault | outcome, after⟩
  · rw [came] at ran
    rw [step_error came]
    exact ⟨ran.1, ran.2.1⟩
  · rw [came] at ran
    obtain ⟨world, vacant, null⟩ := ran
    rw [step_ok came]
    cases made : outcome.made with
    | none => exact ⟨world, vacant⟩
    | some o =>
      obtain rfl := null outcome rfl o made
      dsimp only [Option.elim_some]
      cases r.into with
      | none => exact ⟨world, vacant⟩
      | some slot =>
        rw [keep_some]
        refine ⟨?_, vacant.insert slot⟩
        cases present : after.slots.find? slot with
        | none => exact world
        | some old => obtain rfl := vacant slot old present; exact world

/-- A request whose engine cannot be loaded fails with the reason, and does nothing else. -/
theorem step_of_load_error (loads : r.command.loads = true) {fault : LoadFault} {w : World σ}
    (failed : load.run s.world = (.error fault, w)) : step E load r s = (.error fault.fault, { s with world := w }) :=
  step_error (Command.run_of_load_error loads failed)

/-- Once its engine is loaded a request goes on as if it had needed none. -/
theorem step_of_load_ok (loads : r.command.loads = true) {w : World σ} (loaded : load.run s.world = (.ok (), w)) :
    step E load r s = step E (pure ()) r { s with world := w } := by
  rw [step, step, bind_apply, bind_apply, Command.run_of_load_ok loads loaded]

end Session

namespace Clang

/-! ## Looking at the version -/

/-- What a library answers to the question for its version: a string, and the bytes that its text leads to, which
are missing for a null pointer. -/
structure VersionAnswer where
  handle : CXString
  memory : Option Bytes

namespace VersionAnswer

/-- The text of a version, up to its NUL and with ill-formed pieces shown as U+FFFD. -/
def text (a : VersionAnswer) : String := a.memory.elim "" fun bytes => Text.lossy (bytes.takeWhile (· ≠ 0))

private theorem text_eq (a : VersionAnswer) : a.text = (a.memory.map CString.truncate).elim "" CString.text := by
  unfold text
  cases a.memory <;> rfl

/-- The calls of one look: the string is received, read and disposed. -/
def calls (a : VersionAnswer) : List LibraryCall :=
  [.called .getClangVersion, .called (.getCString a.handle), .called (.disposeString a.handle)]

end VersionAnswer

/-- A library in one state answers the question for its version, and is in another one when the string has been
disposed. -/
inductive Library.Answers (L : Library τ) : τ → VersionAnswer → τ → Prop
  | intro {library received read disposed : τ} {a : VersionAnswer}
      (version : L.call .getClangVersion library = (a.handle, received))
      (text : L.call (.getCString a.handle) received = (a.memory.map CString.truncate, read))
      (dispose : L.call (.disposeString a.handle) read = ((), disposed)) : Answers L library a disposed

section Look

variable {L : Library τ} {library after : τ} {a : VersionAnswer}

/-- Every library answers in every state. -/
theorem Library.exists_answers (L : Library τ) (library : τ) : ∃ a after, L.Answers library a after := by
  rcases received : L.call .getClangVersion library with ⟨handle, second⟩
  rcases read : L.call (.getCString handle) second with ⟨characters, third⟩
  have whole : (characters.map CString.bytes).map CString.truncate = characters := by
    cases characters with
    | none => rfl
    | some s => rw [Option.map_some, Option.map_some, CString.truncate_eq_self s.no_nul]
  refine ⟨⟨handle, characters.map CString.bytes⟩, (L.call (.disposeString handle) third).2, .intro received ?_ rfl⟩
  rw [read, whole]

private theorem call_apply {f : Entry} {result : f.Result} {linked : Linked τ}
    (answered : L.call f linked.library = (result, after)) :
    call L f linked = (result, { linked with library := after, calls := linked.calls ++ [.called f] }) := by
  change ((L.call f linked.library).1,
    ({ linked with library := (L.call f linked.library).2, calls := _ } : Linked τ)) = _
  rw [answered]

/-- One look at the version, with its text and its calls. -/
theorem run_version {linked : Linked τ} (answers : L.Answers linked.library a after) :
    (version L).run linked = (a.text, { linked with library := after, calls := linked.calls ++ a.calls }) := by
  obtain ⟨received, read, disposed⟩ := answers
  change version L linked = _
  rw [version, bind_apply, call_apply received]
  change (call L (.getCString a.handle) >>= _) _ = _
  rw [bind_apply, call_apply read]
  change (call L (.disposeString a.handle) >>= _) _ = _
  rw [bind_apply, call_apply disposed]
  change ((a.memory.map CString.truncate).elim "" CString.text,
    ({ linked with library := after, calls := _ } : Linked τ)) = _
  rw [← a.text_eq, List.append_assoc, List.append_assoc]
  rfl

/-! ## Loading -/

variable {w found : World (Linked τ)}

def lookedAt (w : World (Linked τ)) (a : VersionAnswer) (after : τ) (events : List Event) : World (Linked τ) :=
  { w with
    engine := { w.engine with library := after, calls := w.engine.calls ++ a.calls }
    events := w.events ++ events }

/-- After a look the version alone decides. -/
theorem load_apply (connected : (connect L).run w = (.ok (), found)) (answers : L.Answers found.engine.library a after)
    {result : Except LoadFault Unit} {events : List Event} (judged : Judged a.text result events) :
    (load L).run w = (result, lookedAt found a after events) := by
  obtain ⟨events', came, last⟩ := checkVersion_judged L found
  rw [run_version answers] at came last
  obtain ⟨same, rfl⟩ := came.unique judged
  exact (load_of_connect connected).trans (Prod.ext same last)

end Look

/-! ## Making an index -/

section Creating

variable {L : Library τ} {s : Session (Linked τ)} {options : IndexOptions} {a : VersionAnswer} {after : τ}

def creation (options : IndexOptions) : Entry :=
  .createIndex (toCInt options.excludeDeclarationsFromPch) (toCInt options.displayDiagnostics)

/-- What comes of making an index whose handle is the address: an object that owns the new cell, or an error. -/
def created (address : UInt64) (cells : List IndexCell) : Except Fault Outcome × List IndexCell :=
  if (⟨address⟩ : IndexHandle).isNull then (.error (.failed .creationFailed), cells)
  else (.ok ⟨.index ⟨address⟩, some (.index ⟨cells.length⟩)⟩, cells ++ [⟨⟨address⟩, 1⟩])

variable {w : World (Linked τ)} {address : UInt64}

private theorem ask_createIndex (answered : L.call (creation options) w.engine.library = (address, after)) :
    ask (engine L) (.createIndex options) w = (⟨address⟩,
      { w with
        engine := { w.engine with library := after, calls := w.engine.calls ++ [.called (creation options)] }
        calls := w.calls ++ [.asked (.createIndex options) ⟨address⟩] }) := by
  have made : (engine L).answer (.createIndex options) w.engine =
      (⟨address⟩, { w.engine with library := after, calls := w.engine.calls ++ [.called (creation options)] }) := by
    change (call L (creation options) >>= fun address => pure (⟨address⟩ : IndexHandle)) w.engine = _
    rw [bind_apply, call_apply answered]
    rfl
  rw [ask, made]

private theorem index_create (answered : L.call (creation options) w.engine.library = (address, after)) :
    Ensures (Index.create (engine L) options) w fun result last =>
      last.engine.calls = w.engine.calls ++ [.called (creation options)] ∧
        (result, last.indexes) = if (⟨address⟩ : IndexHandle).isNull then (.error .creationFailed, w.indexes)
          else (.ok ⟨w.indexes.length⟩, w.indexes ++ [⟨⟨address⟩, 1⟩]) := by
  rw [Index.create, Ensures.bind_iff, Ensures.perform_iff, ask_createIndex answered]
  dsimp only
  split <;> exact ⟨rfl, rfl⟩

/-- Making an index once the library is loaded takes one call. -/
theorem run_createIndex (L : Library τ) (options : IndexOptions) (s : Session (Linked τ)) :
    Ensures ((Command.createIndex options).run (engine L) (pure ())) s fun result last =>
      last.world.engine.calls = s.world.engine.calls ++ [.called (creation options)] ∧ last.slots = s.slots ∧
        (result, last.world.indexes) =
          created (L.call (creation options) s.world.engine.library).1 s.world.indexes := by
  rw [Command.run, Ensures.bind_iff, Job.load_iff, Ensures.pure_iff]
  change Ensures _ s _
  rw [Ensures.bind_iff, Job.attempt_iff]
  refine Ensures.mono (index_create rfl) ?_
  unfold created
  rintro result last ⟨calls, made⟩
  split at made
  next null =>
    obtain ⟨rfl, cells⟩ := Prod.mk.inj made
    rw [if_pos null]
    exact ⟨calls, rfl, congrArg _ cells⟩
  next valid =>
    obtain ⟨rfl, cells⟩ := Prod.mk.inj made
    change _ ∧ _ ∧ (Except.ok (Outcome.of (.index ⟨_⟩) last), last.indexes) = _
    rw [if_neg valid, Outcome.of, Object.reply, Index.raw, cells, List.getElem?_concat_length]
    exact ⟨calls, rfl, rfl⟩

/-- How making an index on a library of this version comes out once it is found, and the calls that it takes. -/
structure IndexGated (L : Library τ) (options : IndexOptions) (s : Session (Linked τ)) (found : World (Linked τ))
    (a : VersionAnswer) (after : τ) (made : List LibraryCall) (result : Except Fault Outcome)
    (last : Session (Linked τ)) : Prop where
  calls : last.world.engine.calls = s.world.engine.calls ++ made
  /-- The version is looked at first. -/
  looks : a.calls <+: made
  creates_iff : (∃ exclude display, .called (.createIndex exclude display) ∈ made) ↔ Supported a.text
  disposes_once : made.count (.called (.disposeString a.handle)) = 1
  /-- A refused library is not called again, and nothing is made. -/
  refused : ¬ Supported a.text → ¬ Names a.text (2 ^ 32) →
    made = a.calls ∧ result = .error (.failed (refusal a.text)) ∧
      last = { s with world := lookedAt found a after [.versionRefused a.text] }
  /-- Nor is one whose release is past the last word, which stops the program. -/
  stopped : Names a.text (2 ^ 32) → made = a.calls ∧ result = .error (.panicked .overflow) ∧
    last = { s with world := lookedAt found a after [] }
  /-- An accepted library is asked for the index, and that is all. -/
  accepted : Supported a.text → made = a.calls ++ [.called (creation options)] ∧ last.slots = s.slots ∧
    (result, last.world.indexes) = created (L.call (creation options) after).1 s.world.indexes

private theorem count_dispose (a : VersionAnswer) : a.calls.count (.called (.disposeString a.handle)) = 1 := by
  simp [VersionAnswer.calls]

/-- A library that is not let in is only looked at, whether it is refused or stops the program. -/
private theorem IndexGated.of_fault {s : Session (Linked τ)} {found : World (Linked τ)} {fault : LoadFault}
    {events : List Event} (before : found.engine.calls = s.world.engine.calls) (unsupported : ¬ Supported a.text)
    (judged : Judged a.text (.error fault) events) :
    IndexGated L options s found a after a.calls (.error fault.fault)
      { s with world := lookedAt found a after events } where
  calls := by rw [← before]; rfl
  looks := List.prefix_rfl
  creates_iff := by
    have uncalled : ¬ ∃ exclude display, LibraryCall.called (.createIndex exclude display) ∈ a.calls := by
      simp [VersionAnswer.calls]
    exact iff_of_false uncalled unsupported
  disposes_once := count_dispose a
  refused old fits := by
    obtain ⟨same, rfl⟩ := judged.unique (.refused old fits)
    cases same
    exact ⟨rfl, rfl, rfl⟩
  stopped past := by
    obtain ⟨same, rfl⟩ := judged.unique (.stopped past)
    cases same
    exact ⟨rfl, rfl, rfl⟩
  accepted new := absurd new unsupported

private theorem index_gated (L : Library τ) (options : IndexOptions) {s : Session (Linked τ)} {found : World (Linked τ)}
    (connected : (connect L).run s.world = (.ok (), found)) (answers : L.Answers found.engine.library a after) :
    ∃ made, Ensures ((Command.createIndex options).run (engine L) (load L)) s
      (IndexGated L options s found a after made) := by
  obtain ⟨-, before, books⟩ := connect_frame connected
  by_cases supported : Supported a.text
  · obtain ⟨major, read, new⟩ := id supported
    refine ⟨a.calls ++ [.called (creation options)], ?_⟩
    rw [Ensures, Command.run_of_load_ok rfl (load_apply connected answers (.accepted read new))]
    apply (run_createIndex L options _).mono
    rintro result last ⟨calls, slots, made⟩
    have indexes : found.indexes = s.world.indexes := congrArg (fun b : Books => b.indexes) books
    exact {
      calls := by rw [calls, ← before, ← List.append_assoc]; rfl
      looks := List.prefix_append _ _
      creates_iff := iff_of_true ⟨_, _, List.mem_append_right _ List.mem_cons_self⟩ supported
      disposes_once := by rw [List.count_append, count_dispose]; simp [creation]
      refused := fun old => absurd supported old
      stopped := fun past => absurd supported past.not_supported
      accepted := fun _ => ⟨rfl, slots, indexes ▸ made⟩ }
  · refine ⟨a.calls, ?_⟩
    by_cases past : Names a.text (2 ^ 32)
    · rw [Ensures, Command.run_of_load_error rfl (load_apply connected answers (.stopped past))]
      exact .of_fault before supported (.stopped past)
    · rw [Ensures, Command.run_of_load_error rfl (load_apply connected answers (.refused supported past))]
      exact .of_fault before supported (.refused supported past)

end Creating

/-! ## Requests of a refused session -/

section Refusing

variable {L : Library τ} {text : String} {P : τ → Prop}

/-- Whatever state a library is in, it gives its version as the same text, and looking does not change that. -/
def Library.Repeats (L : Library τ) (text : String) (P : τ → Prop) : Prop :=
  ∀ library a after, P library → L.Answers library a after → a.text = text ∧ P after

/-- What comes of requests to a library whose version is refused. -/
structure RefusedRun (text : String) (requests : List Request) (s : Session (Linked τ))
    (replies : List (Except Fault Reply)) (last : Session (Linked τ)) : Prop where
  /-- Every request that needs the library is refused again. -/
  refuses : requests.Forall₂ (fun r reply => r.command.loads = true → reply = .error (.failed (refusal text))) replies
  /-- It is looked at for every such request, and never called otherwise. -/
  looks : ∃ looks : List VersionAnswer, looks.length = requests.countP (·.command.loads) ∧
    (∀ a ∈ looks, a.text = text) ∧
      last.world.engine.calls = s.world.engine.calls ++ looks.flatMap VersionAnswer.calls
  /-- Nothing is made with it. -/
  unused : last.world.books = s.world.books
  vacant : Vacant last.slots

private theorem run_refused (repeats : L.Repeats text P) (old : ¬ Supported text) (fits : ¬ Names text (2 ^ 32))
    (requests : List Request) {s : Session (Linked τ)} {found : World (Linked τ)} (vacant : Vacant s.slots)
    (connected : (connect L).run s.world = (.ok (), found)) (holds : P found.engine.library) :
    RefusedRun text requests s (Session.run (engine L) (load L) requests s).1
      (Session.run (engine L) (load L) requests s).2 := by
  induction requests generalizing s found with
  | nil => exact ⟨.nil, ⟨[], rfl, nofun, (List.append_nil _).symm⟩, rfl, vacant⟩
  | cons r rest ih =>
    rw [Session.run_cons]
    cases loads : r.command.loads with
    | true =>
      obtain ⟨a, after, answers⟩ := L.exists_answers found.engine.library
      obtain ⟨rfl, still⟩ := repeats _ a after holds answers
      rw [Session.step_of_load_error loads (load_apply connected answers (.refused old fits))]
      obtain ⟨loaded, before, books⟩ := connect_frame connected
      -- From now on the library is found, and stays where looking at it has left it.
      obtain ⟨refuses, ⟨looks, number, same, calls⟩, unused, vacant⟩ :=
        ih (s := { s with world := lookedAt found a after [.versionRefused a.text] }) vacant
          (connect_of_loaded L loaded) still
      refine ⟨.cons (fun _ => rfl) refuses, ⟨a :: looks, ?_, ?_, ?_⟩, unused.trans books, vacant⟩
      · rw [List.length_cons, number, List.countP_cons, if_pos loads]
      · exact List.forall_mem_cons.mpr ⟨rfl, same⟩
      · rw [calls, List.flatMap_cons, ← List.append_assoc, ← before]
        rfl
    | false =>
      obtain ⟨world, idle⟩ := Session.step_idles (engine L) (load L) vacant loads
      obtain ⟨refuses, ⟨looks, number, same, calls⟩, unused, vacant⟩ := ih idle (world ▸ connected) holds
      rw [world] at calls unused
      have needless : ¬ r.command.loads = true := by rw [loads]; exact Bool.false_ne_true
      refine ⟨.cons (fun needs => absurd needs needless) refuses, ⟨looks, ?_, same, calls⟩, unused, vacant⟩
      rw [number, List.countP_cons, if_neg needless, Nat.add_zero]

end Refusing

/-! ## The gate -/

/-- What passes the gate, what it takes and what it leaves. -/
structure TightGate (L : Library τ) : Prop where
  /-- A library that was found before is not looked for again. -/
  loaded : ∀ w, w.engine.loaded = true → (connect L).run w = (.ok (), w)
  /-- Another one is looked for first, and that is reported. -/
  found : ∀ w library, w.engine.loaded = false → L.find w.engine.library = (.ok (), library) →
    (connect L).run w = (.ok (), located w library)
  /-- Where there is none, each request that needs it fails with the reason, and no call is made. -/
  missing : ∀ (r : Request) (s : Session (Linked τ)) reason library, r.command.loads = true →
    s.world.engine.loaded = false → L.find s.world.engine.library = (.error reason, library) →
      Session.step (engine L) (load L) r s =
        (.error (.failed (.engineUnavailable reason)),
          { s with world := { s.world with engine := ⟨library, s.world.engine.calls, false⟩ } })
  /-- Whatever state it is in, a library answers the question for its version. -/
  answers : ∀ library, ∃ a after, L.Answers library a after
  /-- What has to be new enough is the release that the version names, unless that goes past the last word. -/
  releases : ∀ text, ¬ Names text (2 ^ 32) → (Supported text ↔ ∃ release, Names text release ∧ 16 ≤ release)
  /-- An index is made just when the release is new enough. -/
  creating : ∀ options (s : Session (Linked τ)) found a after, (connect L).run s.world = (.ok (), found) →
    L.Answers found.engine.library a after → ∃ made,
      Ensures ((Command.createIndex options).run (engine L) (load L)) s (IndexGated L options s found a after made)
  /-- Whatever came of earlier ones, each request that needs the library is judged by the version that it has now. -/
  refused : ∀ (r : Request) (s : Session (Linked τ)) found a after, r.command.loads = true →
    (connect L).run s.world = (.ok (), found) → L.Answers found.engine.library a after →
      ¬ Supported a.text → ¬ Names a.text (2 ^ 32) →
        Session.step (engine L) (load L) r s =
          (.error (.failed (refusal a.text)), { s with world := lookedAt found a after [.versionRefused a.text] })
  stopped : ∀ (r : Request) (s : Session (Linked τ)) found a after, r.command.loads = true →
    (connect L).run s.world = (.ok (), found) → L.Answers found.engine.library a after → Names a.text (2 ^ 32) →
      Session.step (engine L) (load L) r s =
        (.error (.panicked .overflow), { s with world := lookedAt found a after [] })
  accepted : ∀ (r : Request) (s : Session (Linked τ)) found a after major, r.command.loads = true →
    (connect L).run s.world = (.ok (), found) → L.Answers found.engine.library a after →
      majorRelease? a.text = .ok (some major) → 16 ≤ major.toNat →
        Session.step (engine L) (load L) r s =
          Session.step (engine L) (pure ()) r { s with world := lookedAt found a after [.versionAccepted major] }
  /-- A library that goes on saying the same is refused again and again, and is only looked at. -/
  again : ∀ text P, L.Repeats text P → ¬ Supported text → ¬ Names text (2 ^ 32) → ∀ (linked : Linked τ) found,
    (connect L).run (.start linked) = (.ok (), found) → P found.engine.library → ∀ requests,
      let ran := (Session.run (engine L) (load L) requests).run (.start linked)
      RefusedRun text requests (.start linked) ran.1 ran.2

/-- No library passes without a release that is new enough, and one that does not pass is left as it was found. -/
theorem version_gate_tight (L : Library τ) : TightGate L where
  loaded _ := connect_of_loaded L
  found _ _ := connect_of_found
  missing _ _ _ _ loads fresh find :=
    Session.step_of_load_error loads (load_of_connect_error (connect_of_missing fresh find))
  answers := L.exists_answers
  releases _ := supported_iff
  creating options _ _ _ _ := index_gated L options
  refused _ _ _ _ _ loads connected answers old fits :=
    Session.step_of_load_error loads (load_apply connected answers (.refused old fits))
  stopped _ _ _ _ _ loads connected answers past :=
    Session.step_of_load_error loads (load_apply connected answers (.stopped past))
  accepted _ _ _ _ _ _ loads connected answers read new :=
    Session.step_of_load_ok loads (load_apply connected answers (.accepted read new))
  again _ _ repeats old fits _ _ connected holds requests :=
    run_refused repeats old fits requests .empty connected holds

/-- The scripted library, with the version of an old release. -/
def outdated : Library Script.State where
  find := Script.library.find
  call
    | .getClangVersion => fun s => (⟨1, 0⟩, s)
    | .getCString _ => fun s => (some (CString.truncate (Text.encode "clang version 15.0.7")), s)
    | .disposeString _ => fun s => ((), s)
    | f => Script.library.call f
  children := Script.library.children

private theorem outdated_repeats : outdated.Repeats "clang version 15.0.7" fun _ => True := by
  rintro library a after - ⟨-, read, -⟩
  have characters : some (CString.truncate (Text.encode "clang version 15.0.7")) = a.memory.map CString.truncate :=
    (Prod.mk.inj read).1
  refine ⟨?_, trivial⟩
  rw [a.text_eq, ← characters]
  decide +kernel

/-- Only two of three requests need the old library. -/
theorem version_gate_tight_outdated :
    let requests : List Request :=
      [⟨.createIndex {}, some "index"⟩, ⟨.nullCursor, some "cursor"⟩, ⟨.ofAstFile [97], none⟩]
    let ran := (Session.run (engine outdated) (load outdated) requests).run (.start ⟨{}, [], false⟩)
    outdated.Repeats "clang version 15.0.7" (fun _ => True) ∧ ¬ Supported "clang version 15.0.7" ∧
      ¬ Names "clang version 15.0.7" (2 ^ 32) ∧
        RefusedRun "clang version 15.0.7" requests (.start ⟨{}, [], false⟩) ran.1 ran.2 := by
  have read : majorRelease? "clang version 15.0.7" = .ok (some 15) := by decide
  have old : ¬ Supported "clang version 15.0.7" := by
    rintro ⟨major, same, new⟩
    rw [read] at same
    cases same
    exact absurd new (by decide)
  have fits : ¬ Names "clang version 15.0.7" (2 ^ 32) := by
    rw [← majorRelease?_eq_error_iff, read]
    nofun
  exact ⟨outdated_repeats, old, fits,
    (version_gate_tight outdated).again _ _ outdated_repeats old fits ⟨{}, [], false⟩ _
      (connect_of_found rfl rfl) trivial _⟩

end Clang

end HandleGraph
