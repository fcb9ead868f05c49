import HandleGraph.Proofs.Arguments
import HandleGraph.Proofs.Children
import HandleGraph.Proofs.Staleness
import HandleGraph.Proofs.Strings

/-! # Null cursors

A cursor is a position in a unit or the null cursor, which is in none. No other null cursor comes up in a
session, whatever the engine answers: its null cursors are told by their kind and their data, and are never
kept.

An operation that needs the engine fails on the null cursor under its own name, and leaves everything as it is.
On any other cursor it has made its call when it fails.
-/

namespace HandleGraph

open Inspect

variable {σ α β : Type} {E : Engine σ} {load : Loading σ Unit}

/-! ## Positions and the null cursor -/

/-- A position in a unit, or the null cursor. -/
inductive Cursor.Proper : Cursor → Prop
  | null : Proper .null
  | position {raw : CursorHandle} (valid : raw.isNull = false) (u : TranslationUnit) (generation : UInt64)
      (memo : Memo Cursor) : Proper ⟨raw, some u, generation, memo⟩

namespace Cursor.Proper

variable {c : Cursor}

/-- The null cursor is the only proper one that is null. -/
theorem isNull_iff (proper : c.Proper) : c.isNull ↔ c = .null := by
  cases proper with
  | null => exact ⟨fun _ => rfl, fun _ => rfl⟩
  | position valid u generation memo => simp [isNull, valid, Cursor.null]

private theorem unit_eq_none_iff (proper : c.Proper) : c.unit = none ↔ c = .null := by
  cases proper with
  | null => exact ⟨fun _ => rfl, fun _ => rfl⟩
  | position valid u generation memo => simp [Cursor.null]

private theorem raw_isNull_iff (proper : c.Proper) : c.raw.isNull ↔ c = .null := by
  cases proper with
  | null => exact ⟨fun _ => rfl, fun _ => rfl⟩
  | position valid u generation memo => simp [valid, Cursor.null]

private theorem raw_eq_null_iff (proper : c.Proper) : c.raw = CursorHandle.null ↔ c = .null := by
  refine ⟨fun same => proper.raw_isNull_iff.mp ?_, fun same => by rw [same]; rfl⟩
  rw [same]
  rfl

end Cursor.Proper

private theorem Cursor.Rooted.proper {b : Books} {u : TranslationUnit} {generation : UInt64} {c : Cursor}
    (rooted : c.Rooted b u generation) : c.Proper := by
  cases rooted with
  | absent => exact .null
  | position live _ =>
    obtain ⟨raw, unit, generation, memo⟩ := c
    obtain rfl : unit = some u := live.unit
    exact .position live.valid u generation memo

/-- The elements of a sequence are positions, whatever the engine answers. -/
theorem CursorSequence.Sound.produce_proper {b : Books} {q : CursorSequence} (sound : q.Sound b) (index : Nat) :
    Returns Cursor.Proper (q.produce E index) := by
  obtain ⟨unit, generation, source⟩ := q
  unfold produce
  cases source with
  | children raws =>
    simp only
    cases present : raws[index]? with
    | none => exact .throw
    | some raw =>
      have valid := (sound.children raws rfl raw (List.mem_of_getElem? present)).1
      exact .perform fun w => .position valid unit generation .empty
  | arguments parent count =>
    simp only
    split_ifs
    · exact .throw
    · refine Returns.bind fun raw => ?_
      cases valid : raw.isNull with
      | true => exact .throw
      | false => exact .perform fun w => .position valid unit generation .empty

/-! ## Cursors of a session -/

namespace Session

variable {s : Session σ} {c : Cursor}

/-- What a session can come to, by any requests and with an engine that may change in between. -/
inductive Reached (E : Engine σ) (load : Loading σ Unit) : Session σ → Prop
  | start (engine : σ) : Reached E load (start engine)
  | request {s : Session σ} (reached : Reached E load s) (r : Request) : Reached E load (step E load r s).2
  | change {s : Session σ} (reached : Reached E load s) (engine : σ) :
      Reached E load { s with world := { s.world with engine } }

/-- Sessions stay sound, also when the engine changes in between. -/
theorem Reached.sound (silent : Silent load) (reached : s.Reached E load) : s.Sound := by
  induction reached with
  | start engine => exact (Kept.start engine).sound
  | request _ r ih => exact (step_passes silent ih r).sound
  | change _ engine ih => exact ⟨ih.ordered, ih.objects⟩

theorem Reached.after (engine : σ) (requests : List Request) : (after E load engine requests).Reached E load := by
  induction requests using List.reverseRecOn with
  | nil => exact .start engine
  | append_singleton requests r ih => rw [after_concat]; exact .request ih r

/-- The cursors that come up in a session: those in slots and those that they remember, those that a request
makes, and the elements of sequences, whatever the world is like when they are produced. -/
inductive HandsOut (E : Engine σ) (load : Loading σ Unit) (s : Session σ) : Cursor → Prop
  | held {ref : CursorRef} {c : Cursor} (found : s.cursor? ref = some c) : HandsOut E load s c
  | made {r : Request} {c : Cursor} (made : s.made E load r = some (.cursor c)) : HandsOut E load s c
  | element {slot : String} {q : CursorSequence} {index : Nat} {w : World σ} {c : Cursor}
      (present : s.slots.find? slot = some (.cursors q)) (produced : ((q.produce E index).run w).1 = .ok c) :
      HandsOut E load s c

/-- Every cursor that comes up was made from an answer that is not null, or is the null cursor. -/
theorem HandsOut.proper (silent : Silent load) (sound : s.Sound) (out : s.HandsOut E load c) : c.Proper := by
  cases out with
  | @held ref _ found =>
    obtain ⟨root, present, reached⟩ := exists_root found
    obtain ⟨u, generation, rooted⟩ := sound.objects ref.slot _ present
    exact (Cursor.Rooted.follow rooted reached).proper
  | @made r _ made =>
    -- A session that keeps what the request makes is sound, too.
    have kept := (step_passes (E := E) silent sound ⟨r.command, some ""⟩).sound
    have present : (step E load ⟨r.command, some ""⟩ s).2.slots.find? "" = some (.cursor c) := by
      rcases ran : (r.command.run E load).run s with ⟨fault | outcome, middle⟩
      · rw [made_error ran] at made
        cases made
      · rw [made_ok ran] at made
        rw [step_ok (r := ⟨r.command, some ""⟩) ran, made, Option.elim_some, keep_slots]
        exact (SlotMap.find?_insert ..).trans (if_pos rfl)
    obtain ⟨u, generation, rooted⟩ := kept.objects "" _ present
    exact Cursor.Rooted.proper rooted
  | element present produced =>
    obtain ⟨u, generation, sound, -, -⟩ := sound.objects _ _ present
    exact CursorSequence.Sound.produce_proper sound _ _ c produced

end Session

/-! ## Operations -/

/-- The operation that a question needs the engine for, by the name that its failures carry. -/
def Question.operation? : Question → Option String
  | .view | .copy | .unit | .kind => none
  | .spelling => some CursorText.spelling.operation
  | .displayName => some CursorText.displayName.operation
  | .usr => some CursorText.usr.operation
  | .hash => some "hash"
  | .link l => some l.operation
  | .test t => some t.operation
  | .briefComment => some CursorText.briefComment.operation
  | .rawComment => some CursorText.rawComment.operation
  | .bitFieldWidth => some "get_bitfield_width"
  | .children => some "get_children"
  | .arguments => some "get_arguments"

/-- On the null cursor an operation fails under its name, and nothing happens. -/
theorem Question.ask_null (E : Engine σ) {q : Question} {operation : String} (needs : q.operation? = some operation)
    (w : World σ) : (q.ask E).run ⟨.null, w⟩ = (.error (.nativeQueryFailed operation), ⟨.null, w⟩) := by
  cases q with
  | link l =>
    cases needs
    cases l <;> rfl
  | _ => cases needs <;> rfl

/-- The query by which a question is answered. The children are walked over instead. -/
def Question.query? (raw : CursorHandle) : Question → Option Query
  | .view | .copy | .unit | .kind | .children => none
  | .spelling => some (.text .spelling raw)
  | .displayName => some (.text .displayName raw)
  | .usr => some (.text .usr raw)
  | .hash => some (.hash raw)
  | .link l => some (.link l raw)
  | .test t => some (.test t raw)
  | .briefComment => some (.text .briefComment raw)
  | .rawComment => some (.text .rawComment raw)
  | .bitFieldWidth => some (.bitWidth raw)
  | .arguments => some (.argumentCount raw)

/-- The call by which a question about a cursor is answered. -/
def Question.Calls (q : Question) (raw : CursorHandle) : Call → Prop
  | .asked query _ => q.query? raw = some query
  | .walked c _ => q = .children ∧ c = raw

/-- The calls of a world go on from earlier ones with a call of some sort. -/
def World.WentOn (w after : World σ) (sort : Call → Prop) : Prop :=
  ∃ call more, after.calls = w.calls ++ call :: more ∧ sort call

variable {c : Cursor} {w : World σ} {sort : Call → Prop}

private theorem takeOptionalString_grows (t : StringHandle) (w : World σ) :
    w.calls <+: (takeOptionalString E t w).2.calls := by
  cases null : t.isNull with
  | true => rw [takeOptionalString_of_isNull null]
  | false => exact takeOptionalString_calls (E := E) null w ▸ List.prefix_append _ _

namespace Cursor

/-- An operation on a position that begins with a query has made that call, whatever comes of it. -/
theorem asks_of_live {operation : String} {q : Query} {next : TranslationUnit → q.Answer → Attempt σ α}
    (valid : c.isNull = false) (here : ∀ answer, sort (.asked q answer))
    (grows : ∀ u answer w, Ensures (next u answer) w fun _ after => w.calls <+: after.calls) :
    Ensures (do next (← settle (c.live operation)) (← perform (ask E q))) w fun _ after => w.WentOn after sort := by
  obtain ⟨u, alive⟩ := exists_live valid
  simp only [Ensures.bind_iff, Ensures.settle_iff, alive, Ensures.perform_iff]
  refine (grows u _ _).mono fun _ after ⟨more, grown⟩ => ?_
  refine ⟨.asked q (ask E q w).1, more, ?_, here _⟩
  rw [← grown]
  exact List.append_assoc ..

private theorem asks_only {operation : String} {q : Query} (valid : c.isNull = false)
    (here : ∀ answer, sort (.asked q answer)) :
    Ensures (do let _ ← settle (c.live operation); perform (ask E q)) w fun _ after => w.WentOn after sort := by
  obtain ⟨u, alive⟩ := exists_live valid
  rw [Ensures.bind_iff, Ensures.settle_iff, alive]
  exact ⟨_, [], rfl, here _⟩

private theorem queryText_asks (valid : c.isNull = false) (t : CursorText)
    (here : ∀ answer, sort (.asked (.text t c.raw) answer)) :
    Ensures (queryText E t c) w fun _ after => w.WentOn after sort := by
  refine asks_of_live valid here fun u answer w => ?_
  rw [Ensures, takeString_run]
  exact takeOptionalString_grows answer w

private theorem queryOptionalText_asks (valid : c.isNull = false) (t : CursorText)
    (here : ∀ answer, sort (.asked (.text t c.raw) answer)) :
    Ensures (queryOptionalText E t c) w fun _ after => w.WentOn after sort := by
  refine asks_of_live valid here fun u answer w => ?_
  exact Ensures.perform_iff.mpr (takeOptionalString_grows answer w)

private theorem queryLink_asks (valid : c.isNull = false) (l : Link)
    (here : ∀ answer, sort (.asked (.link l c.raw) answer)) :
    Ensures (queryLink E l c) w fun _ after => w.WentOn after sort := by
  refine asks_of_live valid here fun u answer w => ?_
  split_ifs <;> exact List.prefix_rfl

end Cursor

/-- When the work on a cursor fails, it has made a call of some sort before any other. -/
def Inspect.AsksFirst (sort : Call → Prop) (work : Inspect σ α) (c : Cursor) : Prop :=
  ∀ w, Ensures work ⟨c, w⟩ fun result after => (∃ e, result = .error e) → w.WentOn after.world sort

namespace Inspect.AsksFirst

private theorem bind {first : Inspect σ α} {next : α → Inspect σ β} (asks : first.AsksFirst sort c)
    (succeeds : ∀ a f, Ensures (next a) f fun result _ => ∃ b, result = .ok b) :
    (first >>= next).AsksFirst sort c := by
  intro w
  apply Ensures.bind (asks w) (fun e middle asked _ => asked ⟨e, rfl⟩)
  intro a middle _
  apply (succeeds a middle).mono
  rintro _ _ ⟨b, rfl⟩ ⟨e, failed⟩
  cases failed

private theorem lift {work : Cursor → Attempt σ α}
    (asks : ∀ w, Ensures (work c) w fun _ after => w.WentOn after sort) :
    AsksFirst sort (do Inspect.lift (work (← receiver))) c := by
  intro w
  rw [Ensures.bind_iff, receiver_iff]
  exact lift_iff.mpr ((asks w).mono fun _ _ wentOn _ => wentOn)

private theorem memoised {recollect : Memo Cursor → Option α} {keep : α → Memo Cursor → Memo Cursor}
    {work : Cursor → Attempt σ α} (asks : ∀ w, Ensures (work c) w fun _ after => w.WentOn after sort) :
    AsksFirst sort (memoised recollect keep work) c := by
  intro w
  rw [memoised_iff]
  cases recollect c.memo with
  | some a =>
    rintro ⟨e, failed⟩
    cases failed
  | none =>
    apply (asks w).mono
    rintro (e | a) after wentOn
    · exact fun _ => wentOn
    · exact fun _ => wentOn

end Inspect.AsksFirst

/-- A question about a position in a unit has made its call when it fails. -/
theorem Question.ask_asksFirst (E : Engine σ) {q : Question} {operation : String}
    (needs : q.operation? = some operation) (valid : c.isNull = false) :
    (q.ask E).AsksFirst (q.Calls c.raw) c := by
  cases q with
  | view | copy | unit | kind => cases needs
  | spelling =>
    -- Only a spelling is reported once it was taken, and a report makes no call.
    refine AsksFirst.bind (.memoised fun w => ?_) fun text f => ⟨_, rfl⟩
    have asked : Ensures (Cursor.queryText E .spelling c) w fun _ after =>
        w.WentOn after (Question.spelling.Calls c.raw) := Cursor.queryText_asks valid .spelling fun _ => rfl
    exact Ensures.bind asked (fun _ _ wentOn => wentOn) fun text middle wentOn => wentOn
  | displayName =>
    exact AsksFirst.bind (.memoised fun w => Cursor.queryText_asks valid .displayName fun _ => rfl)
      fun text f => ⟨_, rfl⟩
  | usr => exact AsksFirst.bind (.lift fun w => Cursor.queryText_asks valid .usr fun _ => rfl) fun text f => ⟨_, rfl⟩
  | hash =>
    exact AsksFirst.bind (.memoised fun w => Cursor.asks_only valid fun _ => rfl) fun word f => ⟨_, rfl⟩
  | link l =>
    exact AsksFirst.bind (.memoised fun w => Cursor.queryLink_asks valid l fun _ => rfl) fun d f => ⟨_, rfl⟩
  | test t =>
    exact AsksFirst.bind (.lift fun w => Cursor.asks_only valid fun _ => rfl) fun holds f => ⟨_, rfl⟩
  | briefComment =>
    exact AsksFirst.bind (.lift fun w => Cursor.queryOptionalText_asks valid .briefComment fun _ => rfl)
      fun text f => ⟨_, rfl⟩
  | rawComment =>
    exact AsksFirst.bind (.lift fun w => Cursor.queryOptionalText_asks valid .rawComment fun _ => rfl)
      fun text f => ⟨_, rfl⟩
  | bitFieldWidth =>
    refine AsksFirst.bind (.lift fun w => ?_) fun width f => ⟨_, rfl⟩
    exact Cursor.asks_of_live valid (fun _ => rfl) fun u answer w => Ensures.pure_iff.mpr List.prefix_rfl
  | children =>
    obtain ⟨u, alive⟩ := Cursor.exists_live valid
    refine AsksFirst.bind (fun w => ?_) fun all f => ⟨_, rfl⟩
    rw [Cursor.children_iff (alive _)]
    dsimp only
    split_ifs
    · exact fun _ => ⟨_, [], rfl, rfl, rfl⟩
    · rintro ⟨e, failed⟩
      cases failed
  | arguments =>
    refine AsksFirst.bind (.lift fun w => ?_) fun all f => ⟨_, rfl⟩
    exact Cursor.asks_of_live valid (fun _ => rfl) fun u answer w => List.prefix_rfl

/-! ## In a session -/

/-- In a session the null cursor is the only one without a position, and no operation on it reaches the engine. -/
structure Session.NullsInert (E : Engine σ) (load : Loading σ Unit) (s : Session σ) : Prop where
  /-- Having no unit, having a null handle and having the null handle all come to the same. -/
  unitless : ∀ c, s.HandsOut E load c →
    (c.unit = none ↔ c.raw.isNull) ∧ (c.unit = none ↔ c.raw = CursorHandle.null)
  /-- Every null cursor is the one that remembers nothing. -/
  sentinel : ∀ c, s.HandsOut E load c → c.isNull → c = .null
  /-- On a null cursor each operation fails under its name. The cursor and the world stay as they are. -/
  inert : ∀ c, s.HandsOut E load c → c.isNull → ∀ (q : Question) operation, q.operation? = some operation →
    ∀ w, (q.ask E).run ⟨c, w⟩ = (.error (.nativeQueryFailed operation), ⟨c, w⟩)
  /-- A request for such an operation fails so, again and again, and changes nothing in the session. -/
  requested : ∀ ref c, s.cursor? ref = some c → c.isNull →
    ∀ (q : Question) operation, q.operation? = some operation → ∀ into,
      (step E load ⟨.ask ref q, into⟩ s).1 = .error (.failed (.nativeQueryFailed operation)) ∧
      (step E load ⟨.ask ref q, into⟩ s).2.world = s.world ∧
      ∀ slot, (step E load ⟨.ask ref q, into⟩ s).2.slots.find? slot = s.slots.find? slot
  /-- On any other cursor no operation fails without having made its call. -/
  asks : ∀ c, s.HandsOut E load c → ¬c.isNull → ∀ (q : Question) operation, q.operation? = some operation →
    ∀ w, Ensures (q.ask E) ⟨c, w⟩ fun result after => (∃ e, result = .error e) →
      ∃ call more, after.world.calls = w.calls ++ call :: more ∧ q.Calls c.raw call

/-- Whatever has been requested, and whatever the engine has answered, null cursors are inert. -/
theorem Session.null_cursors_inert {s : Session σ} (silent : Silent load) (reached : s.Reached E load) :
    s.NullsInert E load := by
  have sound := reached.sound silent
  have sentinel : ∀ c, s.HandsOut E load c → c.isNull → c = .null := fun c out null =>
    (out.proper silent sound).isNull_iff.mp null
  constructor
  case unitless =>
    intro c out
    have proper := out.proper silent sound
    exact ⟨proper.unit_eq_none_iff.trans proper.raw_isNull_iff.symm,
      proper.unit_eq_none_iff.trans proper.raw_eq_null_iff.symm⟩
  case sentinel => exact sentinel
  case inert =>
    intro c out null q operation needs w
    rw [sentinel c out null]
    exact q.ask_null E needs w
  case requested =>
    intro ref c found null q operation needs into
    obtain rfl := sentinel c (.held found) null
    have asked : Ensures (q.ask E) ⟨.null, s.world⟩ fun result after => after.cursor = .null ∧
        result = .error (.nativeQueryFailed operation) ∧ after.world = s.world := by
      rw [Ensures, q.ask_null E needs]
      exact ⟨rfl, rfl, rfl⟩
    have still : Ensures ((Command.ask ref q).run E load) s _ :=
      Job.inspect_still (fun result w => result = .error (.nativeQueryFailed operation) ∧ w = s.world) found asked
    obtain ⟨slots, _, failed, rfl, world⟩ := still
    rcases ran : ((Command.ask ref q).run E load).run s with ⟨result, after⟩
    rw [ran] at slots failed world
    obtain rfl : result = .error (.failed (.nativeQueryFailed operation)) := failed
    rw [step_error ran]
    exact ⟨rfl, world, slots⟩
  case asks =>
    intro c _ valid q operation needs
    exact q.ask_asksFirst E needs (Bool.eq_false_iff.mpr valid)

namespace Sample

/-- An engine that knows one source, whose only node refers to a null cursor. Its `xdata` is not zero. -/
def dangling : Script.State :=
  { sources := [([97], ⟨.text [97], .node 0, [{ node with links := fun _ => .exactly ⟨70, 5, 0, 0, 0⟩ }], []⟩)] }

/-- A unit is parsed, and its root is asked what it refers to. -/
def askReferenced : List Request := requests.take 3 ++ [⟨.ask ⟨"root", []⟩ (.link .referenced), none⟩]

end Sample

/-- The root remembers that it refers to nothing. That cursor has no children. -/
theorem Session.null_cursors_inert_dangling :
    let s := after Script.engine (pure ()) Sample.dangling Sample.askReferenced
    Silent (pure () : Loading Script.State Unit) ∧ s.Reached Script.engine (pure ()) ∧
      s.NullsInert Script.engine (pure ()) ∧ s.cursor? ⟨"root", [.referenced]⟩ = some .null ∧
      (step Script.engine (pure ()) ⟨.ask ⟨"root", [.referenced]⟩ .children, none⟩ s).1 =
        .error (.failed (.nativeQueryFailed "get_children")) := by
  intro s
  have reached : s.Reached Script.engine (pure ()) := .after Sample.dangling Sample.askReferenced
  have inert := null_cursors_inert silent_pure reached
  obtain ⟨c, found, null⟩ : ∃ c, s.cursor? ⟨"root", [.referenced]⟩ = some c ∧ c.isNull = true :=
    Option.map_eq_some_iff.mp (by decide +kernel)
  have failed := (inert.requested _ c found null .children _ rfl none).1
  rw [inert.sentinel c (.held found) null] at found
  exact ⟨silent_pure, reached, inert, found, failed⟩

end HandleGraph
