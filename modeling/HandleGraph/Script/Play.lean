import HandleGraph.Script.Library
import HandleGraph.Session.Step

/-! # Playing a script

A session over a scripted engine, either directly or through the C interface. Between commands the
script itself may be changed, and its census taken. Every moment of a play has an answer and comes with
the calls and events on the way to it; at the last moment every slot is emptied and the census taken.
-/

namespace HandleGraph.Script

/-- What an engine has not been given back. -/
structure Census where
  units : Nat
  strings : Nat
deriving DecidableEq, Repr

def State.census (s : State) : Census := ⟨s.units.length, s.strings.length⟩

/-- One step of a play. -/
inductive Cue where
  | command (r : Request)
  | change (setting : Setting)
  | census

/-- How the state of a script is put behind an engine, with `Λ` the calls that are seen of it. -/
structure Staging (σ Λ : Type) where
  engine : Engine σ
  load : Loading σ Unit
  start : State → σ
  script : σ → State
  setScript : State → σ → σ
  calls : World σ → List Λ

/-- The script answers queries itself, and the queries are seen. -/
def direct : Staging State Call where
  engine := engine
  load := return ()
  start := id
  script := id
  setScript s _ := s
  calls w := w.calls

/-- The script is behind a library, and the calls of the C interface are seen. -/
def behind (L : Clang.Library State) (loaded : Bool) : Staging (Clang.Linked State) Clang.LibraryCall where
  engine := Clang.engine L
  load := Clang.load L
  start s := ⟨s, [], loaded⟩
  script := Clang.Linked.library
  setScript s linked := { linked with library := s }
  calls w := w.engine.calls

/-- The script answers behind the C interface, in a library that was found before. -/
def linked : Staging (Clang.Linked State) Clang.LibraryCall := behind library true

inductive Answer where
  | reply (r : Reply)
  | census (c : Census)

/-- An answer with the calls and events on the way to it. -/
structure Moment (Λ : Type) where
  answer : Except Fault Answer
  calls : List Λ
  events : List Event

namespace Staging

variable {σ Λ : Type}

def census (S : Staging σ Λ) : StateM (Session σ) Census := do
  return (S.script (← get).world.engine).census

def change (S : Staging σ Λ) (setting : Setting) : StateM (Session σ) Unit :=
  modify fun s =>
    let script := (S.script s.world.engine).configure setting
    { s with world := { s.world with engine := S.setScript script s.world.engine } }

def perform (S : Staging σ Λ) : Cue → StateM (Session σ) (Except Fault Answer)
  | .command r => do return (← Session.step S.engine S.load r).map .reply
  | .change setting => do
    S.change setting
    return .ok (.reply .done)
  | .census => do return .ok (.census (← S.census))

/-- Let go of everything, and see what is left. -/
def finish (S : Staging σ Λ) : StateM (Session σ) (Except Fault Answer) := do
  Session.close S.engine
  return .ok (.census (← S.census))

/-- Watch the calls and events of some work. -/
def watch (S : Staging σ Λ) (work : StateM (Session σ) (Except Fault Answer)) :
    StateM (Session σ) (Moment Λ) := do
  let before := (← get).world
  let answer ← work
  let after := (← get).world
  return ⟨answer, (S.calls after).drop (S.calls before).length, after.events.drop before.events.length⟩

def play (S : Staging σ Λ) (script : State) (cues : List Cue) : List (Moment Λ) :=
  (work.run (Session.start (S.start script))).1
where
  /-- All steps and the last moment. -/
  work : StateM (Session σ) (List (Moment Λ)) := do
    let moments ← cues.mapM fun cue => S.watch (S.perform cue)
    return moments ++ [← S.watch S.finish]

end Staging

end HandleGraph.Script
