import HandleGraph.Proofs.Cells
import HandleGraph.Proofs.Sessions

/-! # Memoisation

A memoised accessor that has answered once gives the same answer from then on and leaves the engine
alone, as long as its cursor stays in its slot. Only a question to a cursor fills cells, and only those it
asks for. New cursors, copies among them, start with empty cells.
-/

namespace HandleGraph

variable {σ α β : Type} {E : Engine σ} {load : Loading σ Unit}

/-! ## Questions -/

namespace Inspect

variable {may : List Link → Cell → Prop}

private theorem Fills.bind {first : Inspect σ α} {next : α → Inspect σ β} (fills : first.Fills may)
    (goesOn : ∀ a, (next a).Fills may) : (first >>= next).Fills may := by
  intro f
  apply Ensures.bind (fills f) (fun _ _ filled => filled)
  intro a middle filled
  exact (goesOn a middle).mono fun _ _ later => filled.trans later

private theorem Fills.pure (a : α) : Fills (σ := σ) may (pure a) := fun f => .refl f.cursor

theorem Fills.receiver : Fills (σ := σ) may receiver := fun f => .refl f.cursor

/-- Work on the world alone fills no cell. -/
theorem Fills.lift (work : Attempt σ α) : Fills may (lift work) := fun f => .refl f.cursor

end Inspect

def Question.cell? : Question → Option Cell
  | .spelling => some .spelling
  | .displayName => some .displayName
  | .hash => some .hash
  | .link l => some (.link l)
  | _ => none

/-- An accessor fills its cell when its answer is not shown as a content. -/
theorem Cell.accessor_fills (cell : Cell) {wrap : α → Content} {work : Inspect σ α}
    (same : cell.call E = wrap <$> work) : work.Fills fun path other => path = [] ∧ some cell = some other := by
  intro f
  have fills := cell.call_fills (E := E) f
  rw [same, Ensures.map_iff] at fills
  exact fills.mono fun _ _ filled => filled.mono fun _ _ here => ⟨here.1, congrArg some here.2.symm⟩

/-- The question to a memoised accessor fills its cell; no other question fills any. -/
theorem Question.ask_fills (q : Question) :
    (q.ask E).Fills fun path cell => path = [] ∧ q.cell? = some cell := by
  cases q with
  | view => exact fun f => .refl f.cursor
  | copy => exact fun f => .refl f.cursor
  | unit =>
    apply Inspect.Fills.receiver.bind
    intro c
    cases c.unit with
    | none => exact .pure _
    | some u => exact fun f => .refl f.cursor
  | kind =>
    apply Inspect.Fills.receiver.bind
    intro c
    apply (Inspect.Fills.lift _).bind
    intro kind
    exact (Inspect.Fills.lift _).bind fun name => .pure _
  | spelling => exact (Cell.accessor_fills .spelling rfl).bind fun text => .pure _
  | displayName => exact (Cell.accessor_fills .displayName rfl).bind fun text => .pure _
  | usr => exact (Inspect.Fills.receiver.bind fun c => .lift _).bind fun text => .pure _
  | hash => exact (Cell.accessor_fills .hash rfl).bind fun word => .pure _
  | link l => exact (Cell.accessor_fills (.link l) rfl).bind fun c f => .refl f.cursor
  | test t => exact (Inspect.Fills.receiver.bind fun c => .lift _).bind fun holds => .pure _
  | briefComment => exact (Inspect.Fills.receiver.bind fun c => .lift _).bind fun text => .pure _
  | rawComment => exact (Inspect.Fills.receiver.bind fun c => .lift _).bind fun text => .pure _
  | bitFieldWidth => exact (Inspect.Fills.receiver.bind fun c => .lift _).bind fun width => .pure _
  | children => exact (Inspect.Fills.receiver.bind fun c => .lift _).bind fun all f => .refl f.cursor
  | arguments => exact (Inspect.Fills.receiver.bind fun c => .lift _).bind fun all f => .refl f.cursor

/-! ## Commands -/

def Object.Blank : Object → Prop
  | .cursor c => c.memo = .empty
  | _ => True

def Outcome.Blank (o : Outcome) : Prop := ∀ x, o.made = some x → x.Blank

private theorem Outcome.blank_of_none (reply : Reply) : Outcome.Blank ⟨reply, none⟩ := nofun

private theorem Outcome.blank_of_some (reply : Reply) {x : Object} (blank : x.Blank) :
    Outcome.Blank ⟨reply, some x⟩ := by
  rintro _ ⟨⟩
  exact blank

/-- A copy of a cursor remembers nothing. -/
theorem Cursor.clone_blank (c : Cursor) (w : World σ) : (c.clone w).1.memo = .empty := by
  unfold clone
  cases c.unit <;> rfl

private theorem Object.clone_blank {o : Object} {copy : Action σ Object} (copies : o.clone? = some copy)
    (w : World σ) : (copy w).1.Blank := by
  cases o with
  | cursor c => cases copies; exact c.clone_blank w
  | cursors s => cases copies
  | _ => cases copies; trivial

private theorem TranslationUnit.root_blank (u : TranslationUnit) :
    Returns (fun c => c.memo = .empty) (u.root E) := by
  refine Returns.bind fun w => Returns.bind fun raw => ?_
  split_ifs
  · exact Returns.bind fun _ => Returns.bind fun _ => Returns.perform fun w => rfl
  · exact Returns.perform fun w => rfl

namespace CursorSequence

private theorem produce_blank (s : CursorSequence) (index : Nat) :
    Returns (fun c => c.memo = .empty) (s.produce E index) := by
  unfold produce
  cases s.source with
  | children raws =>
    simp only
    cases raws[index]? with
    | none => exact Returns.throw
    | some raw => exact Returns.perform fun w => rfl
  | arguments parent count =>
    simp only
    split_ifs
    · exact Returns.throw
    · apply Returns.bind
      intro raw
      split_ifs
      · exact Returns.throw
      · exact Returns.perform fun w => rfl

private theorem reach_blank (s : CursorSequence) (access : Access) :
    Returns (fun c => c.memo = .empty) (access.reach E s) := by
  have within (index : Nat) :
      Returns (fun c => c.memo = .empty) (ExceptT.mk ((s.toSequence E).get index)) := by
    unfold Sequence.get
    split_ifs
    · exact s.produce_blank index
    · exact Returns.throw
  cases access with
  | get index => exact within index
  | getUnchecked index => exact s.produce_blank index
  | front => exact within 0
  | back =>
    unfold Access.reach Sequence.back
    cases (s.toSequence E).length with
    | zero => exact Returns.throw
    | succ n => exact within n

end CursorSequence

private theorem Question.make_blank {wrap : α → Object} {work : Action σ α} (blank : ∀ w, (wrap (work w).1).Blank) :
    Returns Outcome.Blank (ask.make wrap work) := by
  rintro f _ ⟨⟩
  exact Outcome.blank_of_some _ (blank f.world)

/-- Whatever a question makes starts with empty cells. -/
theorem Question.ask_blank (q : Question) : Returns Outcome.Blank (q.ask E) := by
  cases q with
  | view => exact Returns.bind fun c => Returns.bind fun f => .pure (Outcome.blank_of_none _)
  | copy => exact Returns.bind fun c => make_blank fun w => c.clone_blank w
  | unit =>
    apply Returns.bind
    intro c
    cases c.unit with
    | none => exact .pure (Outcome.blank_of_none _)
    | some u => exact make_blank fun w => trivial
  | kind =>
    exact Returns.bind fun c => Returns.bind fun kind => Returns.bind fun name =>
      .pure (Outcome.blank_of_none _)
  | link l => exact Returns.bind fun c => make_blank fun w => c.clone_blank w
  | children | arguments =>
    exact Returns.bind fun all => Returns.bind fun f => .pure (Outcome.blank_of_some _ trivial)
  | _ => exact Returns.bind fun a => .pure (Outcome.blank_of_none _)

namespace Job

/-- Work that leaves all slots as they are, with a condition on what it returns. -/
def LeavesSlots (good : α → Prop) (work : Job σ α) : Prop :=
  ∀ s, Ensures work s fun result after => after.slots = s.slots ∧ ∀ a, result = .ok a → good a

namespace LeavesSlots

variable {good : α → Prop}

private theorem pure {a : α} (here : good a) : LeavesSlots good (pure a : Job σ α) := by
  refine fun s => ⟨rfl, ?_⟩
  rintro _ ⟨⟩
  exact here

private theorem bind {mid : β → Prop} {work : Job σ β} {next : β → Job σ α} (first : LeavesSlots mid work)
    (goesOn : ∀ b, mid b → LeavesSlots good (next b)) : LeavesSlots good (work >>= next) := by
  intro s
  apply Ensures.bind (first s) (fun _ _ left => ⟨left.1, nofun⟩)
  intro b middle left
  apply (goesOn b (left.2 b rfl) middle).mono
  intro _ _ later
  exact ⟨later.1.trans left.1, later.2⟩

private theorem get : LeavesSlots (fun _ => True) (get : Job σ (Session σ)) := fun _ => ⟨rfl, fun _ _ => trivial⟩

private theorem act {work : Action σ α} (here : ∀ w, good (work w).1) : LeavesSlots good (act work) := by
  refine fun s => ⟨rfl, ?_⟩
  rintro _ ⟨⟩
  exact here s.world

private theorem attempt {work : Attempt σ α} (returns : Returns good work) : LeavesSlots good (attempt work) := by
  exact fun s => ⟨rfl, fun a same => returns s.world a (eq_of_mapError same)⟩

theorem anyAct {work : Action σ α} : LeavesSlots (fun _ => True) (Job.act work) := act fun _ => trivial

private theorem anyAttempt {work : Attempt σ α} : LeavesSlots (fun _ => True) (Job.attempt work) :=
  attempt fun _ _ _ => trivial

private theorem anyLoad {loading : Loading σ Unit} : LeavesSlots (fun _ => True) (Job.load loading) :=
  fun _ => ⟨rfl, fun _ _ => trivial⟩

private theorem held {slot : String} {pick : Object → Option α} :
    LeavesSlots (σ := σ) (fun a => ∃ o, pick o = some a) (held slot pick) := by
  intro s
  rw [held_iff]
  cases picked : s.slots.find? slot >>= pick with
  | none => exact ⟨rfl, nofun⟩
  | some a =>
    obtain ⟨o, -, picked⟩ := Option.bind_eq_some_iff.mp picked
    refine ⟨rfl, ?_⟩
    rintro _ ⟨⟩
    exact ⟨o, picked⟩

private theorem present {o : Object} (blank : o.Blank) : LeavesSlots (σ := σ) Outcome.Blank (present o) :=
  get.bind fun _ _ => .pure (Outcome.blank_of_some _ blank)

end LeavesSlots

end Job

/-! ## Cells in slots -/

/-- What is in a cell of the cursor that a reference leads to. -/
def Session.content (s : Session σ) (ref : CursorRef) (cell : Cell) : Option Content :=
  s.slots.find? ref.slot >>= Object.cursor? >>= (·.content ref.path cell)

/-- The cursor that a reference leads to, as far as it is remembered. -/
def Session.cursor? (s : Session σ) (ref : CursorRef) : Option Cursor :=
  s.slots.find? ref.slot >>= Object.cursor? >>= (·.follow ref.path)

/-- A remembered cursor is reached from the cursor in its slot. -/
theorem Session.exists_root {s : Session σ} {ref : CursorRef} {c : Cursor} (found : s.cursor? ref = some c) :
    ∃ root, s.slots.find? ref.slot = some (.cursor root) ∧ root.follow ref.path = some c := by
  rw [cursor?, Option.bind_eq_bind, Option.bind_eq_some_iff] at found
  obtain ⟨root, picked, reached⟩ := found
  obtain ⟨o, present, same⟩ := Option.bind_eq_some_iff.mp picked
  obtain rfl := Object.eq_of_cursor? same
  exact ⟨root, present, reached⟩

private theorem Session.content_eq (s : Session σ) (ref : CursorRef) (cell : Cell) :
    s.content ref cell = s.cursor? ref >>= (·.memo.content cell) := by
  rw [content, cursor?]
  cases s.slots.find? ref.slot >>= Object.cursor? <;> rfl

/-- A session has become another one by filling empty cells in a slot, among those that may be filled. -/
structure Session.Fills (may : CursorRef → Cell → Prop) (slot : String) (s after : Session σ) : Prop where
  kept : ∀ path cell v, s.content ⟨slot, path⟩ cell = some v → after.content ⟨slot, path⟩ cell = some v
  frame : ∀ path cell, ¬may ⟨slot, path⟩ cell → after.content ⟨slot, path⟩ cell = s.content ⟨slot, path⟩ cell

namespace Session.Fills

variable {may more : CursorRef → Cell → Prop} {slot : String} {s middle after : Session σ}

/-- A slot that holds what it held has its cells as they were. -/
theorem of_slot (same : after.slots.find? slot = s.slots.find? slot) : s.Fills may slot after := by
  have here (path : List Link) (cell : Cell) : after.content ⟨slot, path⟩ cell = s.content ⟨slot, path⟩ cell := by
    rw [content, content, same]
  exact ⟨fun path cell v filled => (here path cell).trans filled, fun path cell _ => here path cell⟩

theorem trans (first : s.Fills may slot middle) (second : middle.Fills may slot after) :
    s.Fills may slot after where
  kept path cell v filled := second.kept path cell v (first.kept path cell v filled)
  frame path cell outside := (second.frame path cell outside).trans (first.frame path cell outside)

theorem mono (fills : s.Fills may slot after) (allows : ∀ ref cell, may ref cell → more ref cell) :
    s.Fills more slot after where
  kept := fills.kept
  frame path cell outside := fills.frame path cell fun allowed => outside (allows _ cell allowed)

end Session.Fills

/-- The cells that work on a cursor at the end of a reference may fill: the one it asks for, and those of
the links on the way. -/
def CursorRef.Reaches (on : CursorRef) (own : Option Cell) (ref : CursorRef) (cell : Cell) : Prop :=
  ref.slot = on.slot ∧ Cell.OnTheWay on.path own ref.path cell

def Command.Asks : Command → CursorRef → Cell → Prop
  | .ask on question => on.Reaches question.cell?
  | .equal a b => fun ref cell => a.Reaches none ref cell ∨ b.Reaches none ref cell
  | _ => fun _ _ => False

/-- A cursor that has filled cells on the way, put back into its slot. -/
theorem Session.Fills.insert {s : Session σ} {on : CursorRef} {own : Option Cell} {c d : Cursor}
    (picked : s.slots.find? on.slot >>= Object.cursor? = some c)
    (worked : c.Fills (Cell.OnTheWay on.path own) d) (w : World σ) (slot : String) :
    s.Fills (on.Reaches own) slot ⟨w, s.slots.insert on.slot (.cursor d)⟩ := by
  by_cases here : slot = on.slot
  · subst here
    have before (path : List Link) (cell : Cell) : s.content ⟨on.slot, path⟩ cell = c.content path cell := by
      rw [content, picked]
      rfl
    have later (path : List Link) (cell : Cell) :
        content ⟨w, s.slots.insert on.slot (.cursor d)⟩ ⟨on.slot, path⟩ cell = d.content path cell := by
      rw [content, SlotMap.find?_insert, if_pos rfl]
      rfl
    constructor
    · intro path cell v filled
      rw [before] at filled
      exact (later path cell).trans (worked.kept path cell v filled)
    · intro path cell outside
      rw [before]
      exact (later path cell).trans (worked.frame path cell fun onTheWay => outside ⟨rfl, onTheWay⟩)
  · refine .of_slot ?_
    exact (SlotMap.find?_insert ..).trans (if_neg here)

/-- Asking the cursor in a slot fills cells of that cursor only. -/
theorem Job.inspect_fills {own : Option Cell} {work : Inspect σ α}
    (fills : work.Fills fun path cell => path = [] ∧ own = some cell) (on : CursorRef) (s : Session σ) :
    Ensures (inspect E on work) s fun _ after => ∀ slot, s.Fills (on.Reaches own) slot after := by
  rw [inspect_iff]
  cases picked : s.slots.find? on.slot >>= Object.cursor? with
  | none => exact fun slot => .of_slot rfl
  | some c =>
    apply (Cursor.along_fills (E := E) fills on.path ⟨c, s.world⟩).mono
    exact fun result after worked slot => .insert picked worked after.world slot

private theorem Job.inspect_returns {good : α → Prop} {work : Inspect σ α} (returns : Returns good work)
    (on : CursorRef) : Returns good (inspect E on work) := by
  intro s
  rw [inspect_iff]
  cases s.slots.find? on.slot >>= Object.cursor? with
  | none => nofun
  | some c =>
    apply (Cursor.along_leaves (E := E) (fun a _ => good a) (fun f => returns f) on.path ⟨c, s.world⟩).mono
    intro result after left a same
    obtain ⟨d, -, here⟩ := left a (eq_of_mapError same)
    exact here

/-- Work on a remembered cursor that leaves it as it is leaves every slot as it is. -/
theorem Job.inspect_still {s : Session σ} {ref : CursorRef} {c : Cursor} {work : Inspect σ α}
    (post : Except Error α → World σ → Prop) (found : s.cursor? ref = some c)
    (worked : Ensures work ⟨c, s.world⟩ fun result after => after.cursor = c ∧ post result after.world) :
    Ensures (inspect E ref work) s fun result after =>
      (∀ slot, after.slots.find? slot = s.slots.find? slot) ∧
        ∃ came, result = came.mapError .failed ∧ post came after.world := by
  obtain ⟨root, present, reached⟩ := Session.exists_root found
  rw [inspect_iff, present]
  apply (Cursor.along_still (f := ⟨root, s.world⟩) reached worked).mono
  rintro result after ⟨still, here⟩
  refine ⟨fun slot => ?_, result, rfl, here⟩
  rw [SlotMap.find?_insert, still]
  split_ifs with here
  · rw [here, present]
  · rfl

namespace Command

open Job LeavesSlots

theorem answer_leavesSlots {work : Job σ α} {mid : α → Prop} (leaves : LeavesSlots mid work)
    (reply : α → Reply) : LeavesSlots Outcome.Blank (do return ⟨reply (← work), none⟩) :=
  leaves.bind fun _ _ => .pure (Outcome.blank_of_none _)

/-- A command has filled cells that it asks for and no others, unless it has dropped their cursor. What it
has made starts with empty cells. -/
structure Leaves (c : Command) (s : Session σ) (result : Except Fault Outcome) (after : Session σ) :
    Prop where
  fills : ∀ slot, c ≠ .drop slot → s.Fills c.Asks slot after
  blank : ∀ o, result = .ok o → o.Blank

private theorem equal_leaves (a b : CursorRef) (s : Session σ) :
    Ensures ((equal a b).run E load) s ((equal a b).Leaves s) := by
  have looked (ref : CursorRef) (s : Session σ) : Ensures (inspect E ref Inspect.receiver) s fun _ after =>
      ∀ slot, s.Fills (ref.Reaches none) slot after := inspect_fills .receiver ref s
  have unmade (fault : Fault) (o : Outcome) (failed : Except.error fault = .ok o) : o.Blank := by cases failed
  refine Ensures.bind (looked a s) (fun fault _ first =>
    ⟨fun slot _ => (first slot).mono fun _ _ => .inl, unmade fault⟩) ?_
  intro c middle first
  have both {after : Session σ} (second : ∀ slot, middle.Fills (b.Reaches none) slot after) (slot : String) :
      s.Fills (Command.equal a b).Asks slot after :=
    ((first slot).mono fun _ _ => .inl).trans ((second slot).mono fun _ _ => .inr)
  apply Ensures.bind (looked b middle) (fun fault _ second => ⟨fun slot _ => both second slot, unmade fault⟩)
  intro d after second
  apply Ensures.mono (answer_leavesSlots anyAct Reply.flag after)
  intro _ last left
  exact ⟨fun slot _ => (both second slot).trans (.of_slot (by rw [left.1])), left.2⟩

private theorem drop_leaves (on : String) (s : Session σ) :
    Ensures ((drop on).run E load) s ((drop on).Leaves s) := by
  unfold run
  rw [Ensures.bind_iff, Ensures.get_iff]
  simp only
  cases s.slots.find? on with
  | none => exact ⟨fun slot _ => .of_slot rfl, fun o same => Except.ok.inj same ▸ Outcome.blank_of_none _⟩
  | some o =>
    refine ⟨fun slot apart => .of_slot ?_, fun o same => Except.ok.inj same ▸ Outcome.blank_of_none _⟩
    change (s.slots.erase on).find? slot = _
    rw [SlotMap.find?_erase, if_neg]
    rintro rfl
    exact apart rfl

/-- Whether a command asks a cursor or drops an object. No other command touches the slots. -/
def asksOrDrops : Command → Bool
  | .ask _ _ | .equal _ _ | .drop _ => true
  | _ => false

/-- No command but these touches a slot, and what it makes remembers nothing. -/
theorem leavesSlots {c : Command} (other : c.asksOrDrops = false) :
    LeavesSlots Outcome.Blank (c.run E load) := by
  cases c with
  | createIndex options =>
    exact anyLoad.bind fun _ _ => anyAttempt.bind fun i _ => present trivial
  | parse on path args unsaved options =>
    exact held.bind fun i _ => anyAttempt.bind fun u _ => present trivial
  | read on path =>
    exact held.bind fun i _ => anyAttempt.bind fun u _ => present trivial
  | ofSource path args unsaved options =>
    exact anyLoad.bind fun _ _ => anyAttempt.bind fun u _ => present trivial
  | ofAstFile path =>
    exact anyLoad.bind fun _ _ => anyAttempt.bind fun u _ => present trivial
  | unitIndex on =>
    exact held.bind fun u _ => get.bind fun s _ => anyAct.bind fun i _ => present trivial
  | unitSpelling on => exact held.bind fun u _ => answer_leavesSlots anyAttempt _
  | generation on => exact held.bind fun u _ => answer_leavesSlots get _
  | root on => exact held.bind fun u _ => (attempt u.root_blank).bind fun c blank => present blank
  | getFile on path =>
    exact held.bind fun u _ => anyAttempt.bind fun f _ => present trivial
  | reparse on unsaved options =>
    exact held.bind fun u _ => answer_leavesSlots anyAttempt fun _ => .done
  | save on path => exact held.bind fun u _ => answer_leavesSlots anyAttempt fun _ => .done
  | fileName on => exact held.bind fun f _ => answer_leavesSlots anyAttempt _
  | fileTime on => exact held.bind fun f _ => answer_leavesSlots anyAct _
  | fileDisplay on => exact held.bind fun f _ => answer_leavesSlots anyAct _
  | fileUnit on => exact held.bind fun f _ => anyAct.bind fun u _ => present trivial
  | nullCursor => exact present rfl
  | access on element =>
    exact held.bind fun q _ => (attempt (q.reach_blank element)).bind fun c blank => present blank
  | each on side =>
    refine held.bind fun q _ => anyAct.bind fun elements _ => ?_
    exact get.bind fun s _ => answer_leavesSlots anyAct fun _ => .results _
  | collect on =>
    refine held.bind fun q _ => anyAttempt.bind fun cursors _ => ?_
    exact get.bind fun s _ => answer_leavesSlots anyAct fun _ => .views _
  | clone on =>
    refine held.bind fun copy copies => ?_
    obtain ⟨o, copies⟩ := copies
    exact (act (Object.clone_blank copies)).bind fun x blank => .pure (Outcome.blank_of_some _ blank)
  | same a b => exact held.bind fun first _ => answer_leavesSlots held _
  | describe on => exact held.bind fun o _ => answer_leavesSlots anyAct _
  | readNullString on => exact held.bind fun i _ => answer_leavesSlots anyAct fun _ => .done
  | ask | equal | drop => cases other

/-- What a command leaves behind: cells it may fill, and objects that remember nothing. -/
theorem run_leaves (c : Command) (s : Session σ) : Ensures (c.run E load) s (c.Leaves s) := by
  cases other : c.asksOrDrops with
  | false =>
    exact (leavesSlots other s).mono fun _ _ left => ⟨fun slot _ => .of_slot (by rw [left.1]), left.2⟩
  | true =>
    cases c with
    | ask on question =>
      apply ((inspect_fills question.ask_fills on s).and (inspect_returns question.ask_blank on s)).mono
      exact fun _ _ left => ⟨fun slot _ => left.1 slot, left.2⟩
    | equal a b => exact equal_leaves a b s
    | drop on => exact drop_leaves on s
    | _ => cases other

end Command

/-! ## Sessions -/

namespace Session

/-- A request takes what a slot holds away, by dropping it or by keeping a new object there. -/
def Vacates (E : Engine σ) (load : Loading σ Unit) (s : Session σ) (r : Request) (slot : String) : Prop :=
  r.command = .drop slot ∨ (r.into = some slot ∧ (s.made E load r).isSome)

variable {s : Session σ}

/-- What a slot holds after a request that does not vacate it is what its command has left there. -/
theorem step_slot {r : Request} {slot : String} (stays : ¬s.Vacates E load r slot) :
    (step E load r s).2.slots.find? slot = ((r.command.run E load).run s).2.slots.find? slot := by
  rcases ran : (r.command.run E load).run s with ⟨fault | outcome, middle⟩
  · rw [step_error ran]
  · rw [step_ok ran]
    cases new : outcome.made with
    | none => rfl
    | some o =>
      rw [Option.elim_some, keep_slots]
      cases into : r.into with
      | none => rfl
      | some target =>
        rw [Option.elim_some, SlotMap.find?_insert, if_neg]
        rintro rfl
        exact stays (.inr ⟨into, by rw [made_ok ran, new]; rfl⟩)

/-- A request fills cells that it asks for, and all others stay as they are. -/
theorem step_fills {r : Request} {slot : String} (stays : ¬s.Vacates E load r slot) :
    s.Fills r.command.Asks slot (step E load r s).2 := by
  have left : Ensures (r.command.run E load) s _ := r.command.run_leaves s
  exact (left.fills slot fun same => stays (.inl same)).trans (.of_slot (step_slot stays))

/-- What a request makes starts with empty cells. -/
theorem made_blank {r : Request} {o : Object} (made : s.made E load r = some o) : o.Blank := by
  have left : Ensures (r.command.run E load) s _ := r.command.run_leaves s
  rw [Ensures] at left
  rcases ran : (r.command.run E load).run s with ⟨fault | outcome, middle⟩
  · rw [made_error ran] at made
    cases made
  · rw [ran] at left
    rw [made_ok ran] at made
    exact left.blank outcome rfl o made

/-! ## Calls of accessors -/

def call (E : Engine σ) (ref : CursorRef) (cell : Cell) : Job σ Content := Job.inspect E ref (cell.call E)

/-- An answer is in its cell afterwards. -/
theorem call_filled (ref : CursorRef) (cell : Cell) (s : Session σ) :
    Ensures (call E ref cell) s fun result after =>
      ∀ v, result = .ok v → after.content ref cell = some v := by
  rw [call, Job.inspect_iff]
  cases s.slots.find? ref.slot >>= Object.cursor? with
  | none => nofun
  | some c =>
    apply (Cursor.along_filled ref.path cell ⟨c, s.world⟩).mono
    intro result after filled v same
    rw [content, SlotMap.find?_insert, if_pos rfl]
    exact filled v (Job.eq_of_mapError same)

/-- A filled cell answers by itself, and nothing changes. -/
theorem call_recalls {ref : CursorRef} {cell : Cell} {v : Content} (filled : s.content ref cell = some v) :
    Ensures (call E ref cell) s fun result after => result = .ok v ∧ after.world = s.world ∧
      ∀ slot, after.slots.find? slot = s.slots.find? slot := by
  rw [content_eq, Option.bind_eq_bind, Option.bind_eq_some_iff] at filled
  obtain ⟨c, found, filled⟩ := filled
  have recalled : Ensures (cell.call E) ⟨c, s.world⟩ fun result after =>
      after.cursor = c ∧ result = .ok v ∧ after.world = s.world := by
    apply (Cell.call_recalls (f := ⟨c, s.world⟩) filled).mono
    rintro _ _ ⟨rfl, rfl⟩
    exact ⟨rfl, rfl, rfl⟩
  apply (Job.inspect_still (fun result w => result = .ok v ∧ w = s.world) found recalled).mono
  rintro _ after ⟨slots, _, rfl, rfl, world⟩
  exact ⟨rfl, world, slots⟩

/-- What may happen while a slot keeps its object: any requests that do not vacate it, and any change of
the engine. -/
inductive Meanwhile (E : Engine σ) (load : Loading σ Unit) (slot : String) (s : Session σ) : Session σ → Prop
  | nothing : Meanwhile E load slot s s
  | request {middle : Session σ} (reached : Meanwhile E load slot s middle) (r : Request)
      (stays : ¬middle.Vacates E load r slot) : Meanwhile E load slot s (step E load r middle).2
  | change {middle : Session σ} (reached : Meanwhile E load slot s middle) (engine : σ) :
      Meanwhile E load slot s { middle with world := { middle.world with engine } }

/-- A filled cell stays filled as long as its slot keeps its object. -/
theorem Meanwhile.content {slot : String} {later : Session σ} (meanwhile : Meanwhile E load slot s later)
    {path : List Link} {cell : Cell} {v : Content} (filled : s.content ⟨slot, path⟩ cell = some v) :
    later.content ⟨slot, path⟩ cell = some v := by
  induction meanwhile with
  | nothing => exact filled
  | request _ r stays ih => exact (step_fills stays).kept path cell v ih
  | change _ engine ih => exact ih

/-- An accessor that may lack its cursor takes a null cursor of the engine for an answer, and keeps it. -/
theorem call_absent {ref : CursorRef} {c : Cursor} {l : Link} {u : TranslationUnit}
    (present : s.slots.find? ref.slot >>= Object.cursor? >>= (·.follow ref.path) = some c)
    (free : c.memo.link l = none) (alive : c.live l.operation = .ok u) (optional : l.isOptional)
    (absent : (E.answer (.link l c.raw) s.world.engine).1.isNull) :
    Ensures (call E ref (.link l)) s fun result _ => result = .ok (.cursor Cursor.null.place) := by
  obtain ⟨root, held, reached⟩ := exists_root present
  rw [call, Job.inspect_iff, held]
  have asked : Ensures (Cell.call E (.link l)) ⟨c, s.world⟩ fun result _ =>
      result = .ok (.cursor Cursor.null.place) := by
    have null : (ask E (.link l c.raw) s.world).1.isNull := absent
    rw [Cell.call, Ensures.map_iff, Cursor.link, Inspect.memoised_iff, free]
    simp only [Cursor.queryLink, Ensures.bind_iff, Ensures.settle_iff, alive, Ensures.perform_iff]
    rw [if_pos null, if_pos optional]
    rfl
  apply (Cursor.along_at (f := ⟨root, s.world⟩) reached asked).mono
  rintro result after ⟨d, rfl, -⟩
  rfl

/-- Memoisation is for good, and every cursor has cells of its own. -/
structure Memoises (E : Engine σ) (load : Loading σ Unit) : Prop where
  /-- A call that was answered once is answered the same ever after, and nothing changes by it. -/
  again : ∀ (s : Session σ) ref cell v, ((call E ref cell).run s).1 = .ok v →
    ∀ later, Meanwhile E load ref.slot ((call E ref cell).run s).2 later →
      Ensures (call E ref cell) later fun result after => result = .ok v ∧ after.world = later.world ∧
        ∀ slot, after.slots.find? slot = later.slots.find? slot
  /-- The cells of remembered cursors stay filled, too. -/
  persists : ∀ (s later : Session σ) slot, Meanwhile E load slot s later → ∀ path cell v,
    s.content ⟨slot, path⟩ cell = some v → later.content ⟨slot, path⟩ cell = some v
  /-- A call fills its own cell and those of the links on the way, and no other cell of any cursor. -/
  call_frame : ∀ (s : Session σ) ref cell, Ensures (call E ref cell) s fun _ after =>
    ∀ slot, s.Fills (ref.Reaches (some cell)) slot after
  request_frame : ∀ (s : Session σ) r slot, ¬s.Vacates E load r slot →
    s.Fills r.command.Asks slot (step E load r s).2
  /-- New cursors start with empty cells, and copies are new. -/
  blank : ∀ (s : Session σ) r c, s.made E load r = some (.cursor c) → ∀ path cell, c.content path cell = none
  /-- A null cursor of the engine is an answer where the cursor may be lacking. -/
  absent : ∀ (s : Session σ) ref c l u,
    s.slots.find? ref.slot >>= Object.cursor? >>= (·.follow ref.path) = some c → c.memo.link l = none →
      c.live l.operation = .ok u → l.isOptional → (E.answer (.link l c.raw) s.world.engine).1.isNull →
        Ensures (call E ref (.link l)) s fun result _ => result = .ok (.cursor Cursor.null.place)

/-- In any session, with any engine, memoised accessors answer for good. -/
theorem memoised_permanently (E : Engine σ) (load : Loading σ Unit) : Memoises E load where
  again s ref cell v answered later meanwhile := by
    have filled := call_filled (E := E) ref cell s
    rw [Ensures] at filled
    exact call_recalls (meanwhile.content (filled v answered))
  persists s later slot meanwhile path cell v filled := meanwhile.content filled
  call_frame s ref cell :=
    Job.inspect_fills (fun f => (cell.call_fills f).mono fun _ _ filled =>
      filled.mono fun _ _ here => ⟨here.1, congrArg some here.2.symm⟩) ref s
  request_frame s r slot stays := step_fills stays
  blank s r c made path cell := Cursor.content_of_empty (made_blank made) path cell
  absent s ref c l u present free alive optional absent := call_absent present free alive optional absent

theorem memoised_permanently_sample :
    ((call Script.engine ⟨"root", []⟩ .spelling).run
        (step Script.engine (pure ()) ⟨.reparse "unit" [] none, none⟩
          ((call Script.engine ⟨"root", []⟩ .spelling).run
            (after Script.engine (pure ()) Sample.script (Sample.requests.take 3))).2).2).1 =
      .ok (.text "f") := by
  have memoises := memoised_permanently Script.engine (pure ())
  have reparsed (s : Session Script.State) : Meanwhile Script.engine (pure ()) "root" s
      (step Script.engine (pure ()) ⟨.reparse "unit" [] none, none⟩ s).2 :=
    .request .nothing _ (by rintro (same | ⟨same, -⟩) <;> cases same)
  exact (memoises.again _ ⟨"root", []⟩ .spelling (.text "f") (by decide +kernel) _ (reparsed _)).1

end Session

end HandleGraph
