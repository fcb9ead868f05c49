import HandleGraph.Session.Command
import HandleGraph.Session.Object
import HandleGraph.SlotMap

/-! # Sessions

A session is a graph with its objects in named slots. A command that fails makes no object. A new
object is kept in its slot, and what the slot held is let go of only then; without a slot the object
itself is let go of. At the end every slot is emptied in order of the names.

Asking a cursor may fill its memo, so the cursor in the slot is replaced by what has become of it,
whether the question was answered or not.
-/

namespace HandleGraph

/-- A world with objects by name. -/
structure Session (σ : Type) where
  world : World σ
  slots : SlotMap Object

/-- Why a command has no answer. -/
inductive Fault where
  | failed (e : Error)
  /-- The program has stopped. Who goes on all the same finds the world as it was left. -/
  | panicked (p : Panic)
  /-- The slot is empty or holds another kind of object. -/
  | misused (slot : String)
deriving DecidableEq, Repr

def LoadFault.fault : LoadFault → Fault
  | .failed e => .failed e
  | .panicked p => .panicked p

/-- Work in a session. What it has done by then stays done when it fails. -/
abbrev Job (σ α : Type) := ExceptT Fault (StateM (Session σ)) α

/-- What a command has come to: its answer and the object that it made. -/
structure Outcome where
  reply : Reply
  made : Option Object := none

variable {σ α : Type}

/-- The outcome of a command that made an object and answers with it. -/
def Outcome.of (o : Object) (w : World σ) : Outcome := ⟨o.reply w, some o⟩

namespace Job

/-- Work on the world alone, without failures. -/
def act (work : Action σ α) : Job σ α := ExceptT.mk fun s =>
  let (a, world) := work.run s.world
  (.ok a, { s with world })

def attempt (work : Attempt σ α) : Job σ α := ExceptT.mk fun s =>
  let (result, world) := work.run s.world
  (result.mapError .failed, { s with world })

def load (loading : Loading σ Unit) : Job σ Unit := ExceptT.mk fun s =>
  let (result, world) := loading.run s.world
  (result.mapError LoadFault.fault, { s with world })

/-- The object in a slot, seen as one of its kinds. -/
def held (slot : String) (pick : Object → Option α) : Job σ α := do
  match (← get).slots.find? slot >>= pick with
  | some a => return a
  | none => throw (.misused slot)

def inspect (E : Engine σ) (ref : CursorRef) (work : Inspect σ α) : Job σ α := do
  let c ← held ref.slot Object.cursor?
  ExceptT.mk fun s =>
    let (result, focus) := (Cursor.along E ref.path work).run ⟨c, s.world⟩
    (result.mapError .failed, ⟨focus.world, s.slots.insert ref.slot (.cursor focus.cursor)⟩)

def present (o : Object) : Job σ Outcome := do return .of o (← get).world

end Job

def Question.ask (E : Engine σ) : Question → Inspect σ Outcome
  | .view => do return ⟨.cursor ((← Inspect.receiver).view (← get).world), none⟩
  | .copy => do make .cursor (← Inspect.receiver).clone
  | .unit => do
    match (← Inspect.receiver).unit with
    | some u => make .unit u.clone
    | none => return ⟨.done, none⟩
  | .kind => do
    let kind ← settleKind (CursorKind.ofValue? (← Inspect.receiver).raw.kind)
    return ⟨.kind kind (← settleKind kind.name), none⟩
  | .spelling => do return ⟨.text (← Cursor.spelling E), none⟩
  | .displayName => do return ⟨.text (← Cursor.displayName E), none⟩
  | .usr => do return ⟨.text (← Cursor.usr E), none⟩
  | .hash => do return ⟨.number (← Cursor.hash E).toNat, none⟩
  | .link l => do make .cursor (← Cursor.link E l).clone
  | .test t => do return ⟨.flag (← Cursor.test E t), none⟩
  | .briefComment => do return ⟨.optionalText (← Cursor.briefComment E), none⟩
  | .rawComment => do return ⟨.optionalText (← Cursor.rawComment E), none⟩
  | .bitFieldWidth => do return ⟨.number (← Cursor.bitFieldWidth E), none⟩
  | .children => do made (.cursors (← Cursor.children E))
  | .arguments => do made (.cursors (← Cursor.arguments E))
where
  /-- Answer with an object. -/
  made (o : Object) : Inspect σ Outcome := do return .of o (← get).world
  /-- Make an object and answer with it. -/
  make {γ : Type} (wrap : γ → Object) (work : Action σ γ) : Inspect σ Outcome := do
    made (wrap (← Inspect.lift (perform work)))
  /-- Go on with a result about kinds, which needs no engine. -/
  settleKind {γ : Type} (result : Except Error γ) : Inspect σ γ := Inspect.lift (settle result)

def Access.reach (E : Engine σ) (s : CursorSequence) : Access → Attempt σ Cursor
  | .get index => ExceptT.mk ((s.toSequence E).get index)
  | .getUnchecked index => ExceptT.mk ((s.toSequence E).getUnchecked index)
  | .front => ExceptT.mk (s.toSequence E).front
  | .back => ExceptT.mk (s.toSequence E).back

namespace Command

open Job

/-- Carry out a command. Whatever needs an engine of its own loads it first. -/
def run (E : Engine σ) (load : Loading σ Unit) : Command → Job σ Outcome
  | .createIndex options => do
    Job.load load
    present (.index (← attempt (Index.create E options)))
  | .parse on path args unsaved options => do
    let i ← held on Object.index?
    present (.unit (← attempt (i.parse E path args unsaved options)))
  | .read on path => do
    let i ← held on Object.index?
    present (.unit (← attempt (i.read E path)))
  | .ofSource path args unsaved options => do
    Job.load load
    present (.unit (← attempt (TranslationUnit.ofSource E path args unsaved options)))
  | .ofAstFile path => do
    Job.load load
    present (.unit (← attempt (TranslationUnit.ofAstFile E path)))
  | .unitIndex on => do
    let u ← held on Object.unit?
    present (.index (← act (u.index (← get).world).clone))
  | .unitSpelling on => do
    let u ← held on Object.unit?
    return ⟨.text (← attempt (u.spelling E)), none⟩
  | .generation on => do
    let u ← held on Object.unit?
    return ⟨.number (u.generation (← get).world).toNat, none⟩
  | .root on => do
    let u ← held on Object.unit?
    present (.cursor (← attempt (u.root E)))
  | .getFile on path => do
    let u ← held on Object.unit?
    present (.file (← attempt (u.getFile E path)))
  | .reparse on unsaved options => do
    let u ← held on Object.unit?
    attempt (u.reparse E unsaved options)
    return ⟨.done, none⟩
  | .save on path => do
    let u ← held on Object.unit?
    attempt (u.save E path)
    return ⟨.done, none⟩
  | .fileName on => do
    let f ← held on Object.file?
    return ⟨.text (← attempt (f.name E)), none⟩
  | .fileTime on => do
    let f ← held on Object.file?
    return ⟨.number (← act (f.time E)).toInt, none⟩
  | .fileDisplay on => do
    let f ← held on Object.file?
    return ⟨.text (← act (f.display E)), none⟩
  | .fileUnit on => do
    let f ← held on Object.file?
    present (.unit (← act f.unit.clone))
  | .nullCursor => present (.cursor .null)
  | .ask on question => inspect E on (question.ask E)
  | .equal a b => do
    let first ← inspect E a Inspect.receiver
    let second ← inspect E b Inspect.receiver
    return ⟨.flag (← act (first.equal E second)), none⟩
  | .access on element => do
    let s ← held on Object.cursors?
    present (.cursor (← attempt (element.reach E s)))
  | .each on side => do
    let s ← held on Object.cursors?
    let elements ← act ((s.toSequence E).drain side (s.toSequence E).iter)
    let w := (← get).world
    let results := elements.map fun element => element.map (·.view w)
    act (elements.forM fun element => element.toOption.elim (pure ()) (·.drop E))
    return ⟨.results results, none⟩
  | .collect on => do
    let s ← held on Object.cursors?
    let cursors ← attempt (s.toList E)
    let views := cursors.map (·.view (← get).world)
    act (cursors.forM (·.drop E))
    return ⟨.views views, none⟩
  | .clone on => do
    let copy ← held on Object.clone?
    return ⟨.done, some (← act copy)⟩
  | .drop on => do
    match (← get).slots.find? on with
    | some o =>
      modify fun s => { s with slots := s.slots.erase on }
      act (o.drop E)
      return ⟨.flag true, none⟩
    | none => return ⟨.flag false, none⟩
  | .same a b => do
    let first ← held a some
    return ⟨.flag (← held b first.same?), none⟩
  | .describe on => do
    let o ← held on some
    return ⟨.text (← act (o.describe E)), none⟩
  | .readNullString on => do
    let _ ← held on Object.index?
    let _ ← act (nullText E)
    return ⟨.done, none⟩

end Command

namespace Session

def start (engine : σ) : Session σ := ⟨.start engine, .empty⟩

def act (work : Action σ α) : StateM (Session σ) α := fun s =>
  let (a, world) := work.run s.world
  (a, { s with world })

/-- Keep a new object and let go of what was in its slot, or of itself when it has none. -/
def keep (E : Engine σ) (into : Option String) (o : Object) : StateM (Session σ) Unit := do
  match into with
  | none => act (o.drop E)
  | some slot =>
    let s ← get
    set { s with slots := s.slots.insert slot o }
    if let some old := s.slots.find? slot then act (old.drop E)

def step (E : Engine σ) (load : Loading σ Unit) (r : Request) :
    StateM (Session σ) (Except Fault Reply) := do
  match ← (r.command.run E load).run with
  | .ok outcome =>
    if let some o := outcome.made then keep E r.into o
    return .ok outcome.reply
  | .error fault => return .error fault

def run (E : Engine σ) (load : Loading σ Unit) (requests : List Request) :
    StateM (Session σ) (List (Except Fault Reply)) := requests.mapM (step E load)

/-- Empty every slot, in order of the names. -/
def close (E : Engine σ) : StateM (Session σ) Unit := do
  let s ← get
  set { s with slots := SlotMap.empty }
  s.slots.values.forM fun o => act (o.drop E)

end Session

end HandleGraph
