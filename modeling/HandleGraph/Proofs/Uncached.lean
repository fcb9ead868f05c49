import HandleGraph.Session.Step

/-! # Graphs without memory

The same sessions over cursors that remember nothing. Every accessor asks the engine, each time it is
called, and a cursor that is met on the way to another one is let go of when that one has been asked.
Everything else is as it is with memory.
-/

namespace HandleGraph

variable {σ α : Type}

/-- Work on a cursor, without regard to what the cursor would remember. -/
def Inspect.once (work : Inspect σ α) (c : Cursor) : Attempt σ α := ExceptT.mk fun w =>
  let (result, f) := work.run ⟨c, w⟩
  (result, f.world)

namespace Cursor

def bare (c : Cursor) : Cursor := { c with memo := .empty }

def queryHash (E : Engine σ) (c : Cursor) : Attempt σ UInt32 := do
  let _ ← settle (c.live "hash")
  perform (ask E (.hash c.raw))

/-- Work on the cursor at the end of a chain of links. The engine is asked for every cursor on the way, and
each of them is let go of afterwards, whatever the work has come to. -/
def visit (E : Engine σ) (work : Cursor → Attempt σ α) : List Link → Cursor → Attempt σ α
  | [], c => work c
  | l :: path, c => do
    let d ← c.queryLink E l
    let result ← perform (visit E work path d).run
    perform (d.drop E)
    settle result

end Cursor

/-- Ask a cursor that remembers nothing. -/
def Question.askEngine (E : Engine σ) (c : Cursor) : Question → Attempt σ Outcome
  | .spelling => do return ⟨.text (← c.queryText E .spelling), none⟩
  | .displayName => do return ⟨.text (← c.queryText E .displayName), none⟩
  | .hash => do return ⟨.number (← c.queryHash E).toNat, none⟩
  | .link l => do
    let d ← c.queryLink E l
    return .of (.cursor d) (← get)
  | question => Inspect.once (question.ask E) c

/-- Work on the cursor that a reference leads to. -/
def Job.visit (E : Engine σ) (ref : CursorRef) (work : Cursor → Attempt σ α) : Job σ α := do
  let c ← held ref.slot Object.cursor?
  attempt (c.visit E work ref.path)

/-- Compare a cursor with the one that a reference leads to, and let go of both. -/
def Job.compare (E : Engine σ) (first : Cursor) (ref : CursorRef) : Job σ Bool := do
  match ← ExceptT.lift (Job.visit E ref fun c => perform c.clone).run with
  | .ok second =>
    let flag ← act (first.equal E second)
    act (first.drop E)
    act (second.drop E)
    return flag
  | .error fault =>
    act (first.drop E)
    throw fault

/-- Carry out a command with cursors that remember nothing. -/
def Command.runUncached (E : Engine σ) (load : Loading σ Unit) : Command → Job σ Outcome
  | .ask on question => Job.visit E on fun c => question.askEngine E c
  | .equal a b => do
    let first ← Job.visit E a fun c => perform c.clone
    return ⟨.flag (← Job.compare E first b), none⟩
  | c => c.run E load

namespace Session

/-- Answer a request by what its command has come to, and keep what it has made. -/
def conclude (E : Engine σ) (into : Option String) (result : Except Fault Outcome) :
    StateM (Session σ) (Except Fault Reply) := do
  match result with
  | .ok outcome =>
    if let some o := outcome.made then keep E into o
    return .ok outcome.reply
  | .error fault => return .error fault

def stepUncached (E : Engine σ) (load : Loading σ Unit) (r : Request) :
    StateM (Session σ) (Except Fault Reply) := do
  conclude E r.into (← (r.command.runUncached E load).run)

def runUncached (E : Engine σ) (load : Loading σ Unit) (requests : List Request) :
    StateM (Session σ) (List (Except Fault Reply)) := requests.mapM (stepUncached E load)

/-- A request is concluded the same with memory. -/
theorem step_eq (E : Engine σ) (load : Loading σ Unit) (r : Request) :
    step E load r = ((r.command.run E load).run >>= conclude E r.into) := rfl

end Session

end HandleGraph
