import HandleGraph.Proofs.Elements
import HandleGraph.Proofs.TreeTraversal

/-! # Arguments of a cursor

To ask a cursor for its arguments is to ask the engine how many there are. Each access asks it for one of them,
by the very position that was asked for, again at every access; nothing is kept of an answer. The engine numbers
arguments by 32-bit words. A position that is none never reaches it.
-/

namespace HandleGraph

variable {σ : Type} {E : Engine σ} {load : Loading σ Unit} {c : Cursor} {u : TranslationUnit}
  {generation : UInt64} {parent : CursorHandle} {count : Nat} {w : World σ}

/-- All that a question does to the world is to move the engine on and to be noted. -/
theorem ask_eq_noted (q : Query) (w : World σ) :
    ask E q w = ((E.answer q w.engine).1,
      w.noted (E.answer q w.engine).2 [.asked q (E.answer q w.engine).1] []) := by
  simp only [ask, World.noted, List.append_nil]

/-! ### The number of arguments -/

namespace Cursor

/-- To ask for arguments is to ask for their number. -/
theorem arguments_iff (alive : c.live "get_arguments" = .ok u)
    {post : Except Error CursorSequence → Focus σ → Prop} :
    Ensures (arguments E) ⟨c, w⟩ post ↔
      let count := E.answer (.argumentCount c.raw) w.engine
      post (.ok ⟨u, c.generation, .arguments c.raw count.1.toInt.toNat⟩)
        ⟨c, (w.noted count.2 [.asked (.argumentCount c.raw) count.1] []).countUnit u (· + 1)⟩ := by
  rw [arguments, Ensures.bind_iff, Inspect.receiver_iff]
  simp only [Inspect.lift_iff, Ensures.bind_iff, Ensures.settle_iff, alive, Ensures.perform_iff, ask_eq_noted]
  exact Iff.rfl

end Cursor

/-! ### Accesses -/

/-- An access gets at the engine: one that minds the length by keeping to it, any other one if its position is
a 32-bit word. -/
def Access.Passes (count : Nat) (a : Access) : Prop := a.position count < if a.isChecked then count else 2 ^ 32

instance (count : Nat) (a : Access) : Decidable (a.Passes count) := inferInstanceAs (Decidable (_ < _))

/-- The answer of the engine for an argument, as a result. A null one is a failure. -/
def TranslationUnit.argument (u : TranslationUnit) (generation : UInt64) (raw : CursorHandle) : Except Error Cursor :=
  if raw.isNull then .error (.nativeQueryFailed "get_arguments") else .ok (u.element generation raw)

namespace CursorSequence

/-- A sequence fetches the arguments of a parent, in any world. -/
structure Fetches (E : Engine σ) (q : CursorSequence) (u : TranslationUnit) (generation : UInt64)
    (parent : CursorHandle) (count : Nat) : Prop where
  length : q.length = count
  /-- An access that passes makes one call, with its own position, and hands out what it was answered. A cursor
  makes the unit have one more owner. -/
  fetched : ∀ a : Access, a.Passes count → ∃ position : UInt32, position.toNat = a.position count ∧
    ∀ w raw engine, E.answer (.argument parent position) w.engine = (raw, engine) →
      let asked := w.noted engine [.asked (.argument parent position) raw] []
      (a.reach E q).run w = (u.argument generation raw, if raw.isNull then asked else asked.countUnit u (· + 1))
  /-- Any other access fails, and nothing happens. -/
  refused : ∀ a : Access, ¬a.Passes count → ∀ w,
    (a.reach E q).run w = (.error (.indexOutOfRange (a.position count) count), w)

private theorem produce_argument {index : Nat} (fits : index < 2 ^ 32) {raw : CursorHandle} {engine : σ}
    (answered : E.answer (.argument parent (UInt32.ofNat index)) w.engine = (raw, engine)) :
    let asked := w.noted engine [.asked (.argument parent (UInt32.ofNat index)) raw] []
    ((CursorSequence.mk u generation (.arguments parent count)).produce E index).run w =
      (u.argument generation raw, if raw.isNull then asked else asked.countUnit u (· + 1)) := by
  have small : ¬UInt32.size ≤ index := Nat.not_le.mpr fits
  refine (?_ : Ensures ((CursorSequence.mk u generation (.arguments parent count)).produce E index) w
    fun result after => (result, after) = _)
  simp only [produce, if_neg small, Ensures.bind_iff, Ensures.perform_iff, ask_eq_noted, answered,
    TranslationUnit.argument]
  split_ifs <;> rfl

/-- Arguments that were counted are fetched one by one. -/
theorem arguments_fetch (E : Engine σ) (u : TranslationUnit) (generation : UInt64) (parent : CursorHandle)
    (small : count ≤ 2 ^ 32) : Fetches E ⟨u, generation, .arguments parent count⟩ u generation parent count where
  length := rfl
  fetched a passes := by
    have fits : a.position count < 2 ^ 32 := by
      unfold Access.Passes at passes
      split_ifs at passes <;> omega
    refine ⟨.ofNat (a.position count), UInt32.toNat_ofNat_of_lt' fits, fun w raw engine answered => ?_⟩
    rw [a.reach_eq, if_neg]
    · exact produce_argument fits answered
    · rintro ⟨checked, outside⟩
      rw [Access.Passes, if_pos checked] at passes
      exact absurd outside (Nat.not_le.mpr passes)
  refused a past w := by
    rw [Access.Passes, Nat.not_lt] at past
    rw [a.reach_eq]
    split_ifs with here
    · rfl
    -- Nothing but a position that is no 32-bit word gets here: the producer itself turns it away.
    · have unchecked : ¬a.isChecked := fun checked => here ⟨checked, by rwa [if_pos checked] at past⟩
      rw [if_neg unchecked] at past
      have large : UInt32.size ≤ a.position count := past
      simp only [produce, length, if_pos large]
      rfl

/-! ### Accesses in any order -/

/-- Accesses to a sequence, one after another. -/
def reachAll (E : Engine σ) (q : CursorSequence) (accesses : List Access) :
    Action σ (List (Except Error Cursor)) := accesses.mapM fun a => (a.reach E q).run

/-- An access and what came of it: the result, and the calls of the engine. -/
structure Turn where
  access : Access
  result : Except Error Cursor
  calls : List Call

/-- An access to one of the arguments of a parent. If it passes it has made one call, with its own position. -/
inductive Turn.Fetches (u : TranslationUnit) (generation : UInt64) (parent : CursorHandle) (count : Nat) : Turn → Prop
  | asked {a : Access} (passes : a.Passes count) (position : UInt32) (own : position.toNat = a.position count)
      (raw : CursorHandle) :
      Fetches u generation parent count
        ⟨a, u.argument generation raw, [.asked (.argument parent position) raw]⟩
  | refused {a : Access} (past : ¬a.Passes count) :
      Fetches u generation parent count ⟨a, .error (.indexOutOfRange (a.position count) count), []⟩

variable {q : CursorSequence}

private theorem Fetches.turn (fetches : q.Fetches E u generation parent count) (a : Access) (w : World σ) :
    ∃ t : Turn, t.access = a ∧ ((a.reach E q).run w).1 = t.result ∧
      ((a.reach E q).run w).2.calls = w.calls ++ t.calls ∧ t.Fetches u generation parent count := by
  by_cases passes : a.Passes count
  · obtain ⟨position, own, reached⟩ := fetches.fetched a passes
    rw [reached w _ _ rfl]
    refine ⟨_, rfl, rfl, ?_, .asked passes position own _⟩
    split_ifs <;> rfl
  · rw [fetches.refused a passes w]
    exact ⟨_, rfl, rfl, (List.append_nil _).symm, .refused passes⟩

/-- Accesses in any order, and again and again, make each its own call and no others. -/
theorem Fetches.turns (fetches : q.Fetches E u generation parent count) (accesses : List Access) (w : World σ) :
    ∃ turns : List Turn, turns.map (·.access) = accesses ∧
      (q.reachAll E accesses w).1 = turns.map (·.result) ∧
      (q.reachAll E accesses w).2.calls = w.calls ++ turns.flatMap (·.calls) ∧
      ∀ t ∈ turns, t.Fetches u generation parent count := by
  induction accesses generalizing w with
  | nil => exact ⟨[], rfl, rfl, (List.append_nil _).symm, nofun⟩
  | cons a rest ih =>
    obtain ⟨t, rfl, result, calls, here⟩ := fetches.turn a w
    obtain ⟨turns, rfl, results, later, all⟩ := ih ((t.access.reach E q).run w).2
    rw [reachAll, List.mapM_cons]
    refine ⟨t :: turns, rfl, ?_, ?_, List.forall_mem_cons.mpr ⟨here, all⟩⟩
    · rw [List.map_cons, ← result, ← results]
      rfl
    · rw [List.flatMap_cons, ← List.append_assoc, ← calls, ← later]
      rfl

end CursorSequence

/-! ### Asking for them -/

/-- What a cursor of a unit gives when it is asked for its arguments. -/
structure Cursor.GivesArguments (E : Engine σ) (load : Loading σ Unit) (c : Cursor) (u : TranslationUnit) :
    Prop where
  /-- The engine is asked how many there are, and for none of them. -/
  counted : ∀ w m engine, E.answer (.argumentCount c.raw) w.engine = (m, engine) →
    (arguments E).run ⟨c, w⟩ = (.ok ⟨u, c.generation, .arguments c.raw m.toInt.toNat⟩,
      ⟨c, (w.noted engine [.asked (.argumentCount c.raw) m] []).countUnit u (· + 1)⟩)
  /-- A negative number counts as none. -/
  length : ∀ m : Int32, (CursorSequence.length ⟨u, c.generation, .arguments c.raw m.toInt.toNat⟩ : Int) =
    max m.toInt 0
  /-- Each of them is asked for on access, as a cursor of the same unit and generation. -/
  fetches : ∀ m : Int32, CursorSequence.Fetches E ⟨u, c.generation, .arguments c.raw m.toInt.toNat⟩ u c.generation
    c.raw m.toInt.toNat
  /-- Accesses in any order, and again and again, make each its own call and no others. -/
  turns : ∀ (m : Int32) accesses w, ∃ turns : List CursorSequence.Turn, turns.map (·.access) = accesses ∧
    let q : CursorSequence := ⟨u, c.generation, .arguments c.raw m.toInt.toNat⟩
    (q.reachAll E accesses w).1 = turns.map (·.result) ∧
    (q.reachAll E accesses w).2.calls = w.calls ++ turns.flatMap (·.calls) ∧
    ∀ t ∈ turns, t.Fetches u c.generation c.raw m.toInt.toNat
  /-- In a session the sequence is the same as long as its slot keeps it, whatever becomes of the cursor and of
  its unit. -/
  shown : ∀ (s : Session σ) ref m engine, s.cursor? ref = some c →
    E.answer (.argumentCount c.raw) s.world.engine = (m, engine) → ∀ slot later,
      Session.Meanwhile E load slot (Session.step E load ⟨.ask ref .arguments, some slot⟩ s).2 later →
        later.Shows E load slot ⟨u, c.generation, .arguments c.raw m.toInt.toNat⟩

/-- A cursor of a unit gives its arguments by their number, and each of them on access. -/
theorem Cursor.arguments_exact (E : Engine σ) (load : Loading σ Unit) (c : Cursor) (valid : c.isNull = false) :
    ∃ u, c.unit = some u ∧ c.GivesArguments E load u := by
  obtain ⟨u, alive⟩ := exists_live valid
  have counted : ∀ w m engine, E.answer (.argumentCount c.raw) w.engine = (m, engine) →
      (arguments E).run ⟨c, w⟩ = (.ok ⟨u, c.generation, .arguments c.raw m.toInt.toNat⟩,
        ⟨c, (w.noted engine [.asked (.argumentCount c.raw) m] []).countUnit u (· + 1)⟩) := by
    intro w m engine answered
    refine (?_ : Ensures (arguments E) ⟨c, w⟩ fun result after => (result, after) = _)
    rw [arguments_iff (alive _), answered]
  have fetches (m : Int32) : CursorSequence.Fetches E ⟨u, c.generation, .arguments c.raw m.toInt.toNat⟩ u
      c.generation c.raw m.toInt.toNat := by
    have small := m.toInt_lt
    exact CursorSequence.arguments_fetch E u c.generation c.raw (by omega)
  refine ⟨u, unit_of_live (alive "get_arguments"), counted, fun m => Int.toNat_eq_max _, fetches,
    fun m => (fetches m).turns, ?_⟩
  intro s ref m engine found answered slot later meanwhile
  refine Session.shows (meanwhile.cursors (Session.kept_of_made found ?_ slot))
  refine Ensures.bind_iff.mpr ?_
  rw [Ensures, counted s.world m engine answered]
  exact ⟨rfl, _, rfl⟩

/-- An engine that knows a source whose root has two arguments, the second of them null. -/
def Sample.callee : Script.State :=
  { sources := [([97], ⟨.text [97], .node 0, [{ node with args := [.node 0, .null] }], []⟩)] }

/-- The arguments of that root are counted, and fetched after the root was let go of and its unit reparsed. -/
theorem Cursor.arguments_exact_callee :
    let step (command : Command) (into : Option String) (s : Session Script.State) : Session Script.State :=
      (Session.step Script.engine (pure ()) ⟨command, into⟩ s).2
    let s := Session.after Script.engine (pure ()) Sample.callee (Sample.requests.take 3)
    let later := step (.reparse "unit" [] none) none
      (step (.drop "root") none (step (.ask ⟨"root", []⟩ .arguments) (some "arguments") s))
    let q : CursorSequence := ⟨⟨0⟩, 0, .arguments ⟨300, 0, 2, 1, 0⟩ 2⟩
    (∃ root, s.cursor? ⟨"root", []⟩ = some root ∧ root.isNull = false) ∧
      later.Shows Script.engine (pure ()) "arguments" q ∧
      ∃ turns : List CursorSequence.Turn, turns.map (·.access) = [.back, .front, .getUnchecked (2 ^ 32), .front] ∧
        (q.reachAll Script.engine [.back, .front, .getUnchecked (2 ^ 32), .front] later.world).1 =
          turns.map (·.result) ∧ ∀ t ∈ turns, t.Fetches ⟨0⟩ 0 ⟨300, 0, 2, 1, 0⟩ 2 := by
  intro step s later q
  obtain ⟨⟨raw, unit, generation, memo⟩, found, place⟩ : ∃ root, s.cursor? ⟨"root", []⟩ = some root ∧
      root.place = (⟨300, 0, 2, 1, 0⟩, some ⟨0⟩, 0) := Option.map_eq_some_iff.mp (by decide +kernel)
  obtain ⟨rfl, rfl, rfl⟩ : raw = _ ∧ unit = _ ∧ generation = _ := by simpa [Cursor.place] using place
  obtain ⟨_, ⟨⟩, gives⟩ := arguments_exact Script.engine (pure ()) ⟨⟨300, 0, 2, 1, 0⟩, some ⟨0⟩, 0, memo⟩ rfl
  have answers {count : Int32} {state : Script.State}
      (counted : (Script.engine.answer (.argumentCount ⟨300, 0, 2, 1, 0⟩) state).1 = count) :
      Script.engine.answer (.argumentCount ⟨300, 0, 2, 1, 0⟩) state = (count, state) := Prod.ext counted rfl
  have two : Script.engine.answer (.argumentCount ⟨300, 0, 2, 1, 0⟩) s.world.engine = (2, s.world.engine) :=
    answers (by decide +kernel)
  have meanwhile : Session.Meanwhile Script.engine (pure ()) "arguments"
      (step (.ask ⟨"root", []⟩ .arguments) (some "arguments") s) later :=
    .request (.request .nothing ⟨.drop "root", none⟩ (by simp [Session.Vacates])) ⟨.reparse "unit" [] none, none⟩
      (by simp [Session.Vacates])
  obtain ⟨turns, accesses, results, -, all⟩ := gives.turns 2 [.back, .front, .getUnchecked (2 ^ 32), .front] later.world
  exact ⟨⟨_, found, rfl⟩, gives.shown s _ 2 s.world.engine found two "arguments" later meanwhile,
    turns, accesses, results, all⟩

end HandleGraph
