import HandleGraph.Proofs.Failure

/-! # How often the engine is asked

A memoised accessor asks its question to the engine once for every call that fails, and once more for the
first call that is answered. So a failure is not remembered, and only accessors that cannot fail ask at most
once whatever the engine answers.
-/

namespace HandleGraph

variable {σ α : Type} {E : Engine σ}

/-- The question to the engine behind a memoised accessor. -/
def Cell.query (raw : CursorHandle) : Cell → Query
  | .spelling => .text .spelling raw
  | .displayName => .text .displayName raw
  | .hash => .hash raw
  | .link l => .link l raw

def Call.asks (q : Query) : Call → Bool
  | .asked other _ => other = q
  | .walked _ _ => false

def inquiries (q : Query) (calls : List Call) : Nat := calls.countP (Call.asks q)

/-! ## One call of an accessor -/

private theorem inquiries_ask (q other : Query) (w : World σ) :
    inquiries q (ask E other w).2.calls = inquiries q w.calls + if other = q then 1 else 0 := by
  change inquiries q (w.calls ++ [.asked other (ask E other w).1]) = _
  simp [inquiries, Call.asks, List.countP_append, List.countP_singleton]

/-- Taking a string asks about that string only. -/
theorem inquiries_takeOptionalString {q : Query} (read : ∀ t, q ≠ .readString t)
    (dispose : ∀ t, q ≠ .disposeString t) (t : StringHandle) (w : World σ) :
    inquiries q (takeOptionalString E t w).2.calls = inquiries q w.calls := by
  cases null : t.isNull with
  | true => rw [takeOptionalString_of_isNull null]
  | false =>
    rw [takeOptionalString_calls null]
    simp [inquiries, List.countP_append, Call.asks, (read t).symm, (dispose t).symm]

namespace Cursor

variable {c : Cursor} {w : World σ}

/-- A cursor that is a position is live for every operation, and no other cursor is for any. -/
theorem live_eq (c : Cursor) (operation : String) :
    c.live operation = match c.isNull, c.unit with
      | false, some u => .ok u
      | _, _ => .error (.nativeQueryFailed operation) := by
  unfold live isNull
  cases c.unit <;> cases c.raw.isNull <;> rfl

/-- A position is live in one unit, whatever it is asked. -/
theorem exists_live (valid : c.isNull = false) : ∃ u, ∀ operation, c.live operation = .ok u := by
  cases here : c.unit with
  | none => simp [isNull, here] at valid
  | some u => exact ⟨u, fun operation => by rw [live_eq, valid, here]⟩

private theorem live_of_isNull (null : c.isNull) (operation : String) :
    c.live operation = .error (.nativeQueryFailed operation) := by
  rw [live_eq, null]

private theorem queryText_inquires (valid : c.isNull = false) (t : CursorText) :
    Ensures (queryText E t c) w fun _ after =>
      inquiries (.text t c.raw) after.calls = inquiries (.text t c.raw) w.calls + 1 := by
  obtain ⟨u, live⟩ := exists_live valid
  simp only [queryText, Ensures.bind_iff, Ensures.settle_iff, live, Ensures.perform_iff]
  rw [Ensures, takeString_run, inquiries_takeOptionalString (by simp) (by simp), inquiries_ask, if_pos rfl]

private theorem queryLink_inquires (valid : c.isNull = false) (l : Link) :
    Ensures (queryLink E l c) w fun _ after =>
      inquiries (.link l c.raw) after.calls = inquiries (.link l c.raw) w.calls + 1 := by
  obtain ⟨u, live⟩ := exists_live valid
  have asked := inquiries_ask (E := E) (.link l c.raw) (.link l c.raw) w
  rw [if_pos rfl] at asked
  simp only [queryLink, Ensures.bind_iff, Ensures.settle_iff, live, Ensures.perform_iff]
  split_ifs <;> exact asked

end Cursor

/-- An accessor without an answer in its memory asks what its work asks. -/
theorem Inspect.memoised_inquires {recollect : Memo Cursor → Option α}
    {keep : α → Memo Cursor → Memo Cursor} {work : Cursor → Attempt σ α} {f : Focus σ} {q : Query}
    (free : recollect f.cursor.memo = none) (worked : Ensures (work f.cursor) f.world fun _ after =>
      inquiries q after.calls = inquiries q f.world.calls + 1) :
    Ensures (memoised recollect keep work) f fun _ after =>
      inquiries q after.world.calls = inquiries q f.world.calls + 1 := by
  rw [memoised_iff, free]
  apply worked.mono
  rintro (e | a) w asked <;> exact asked

namespace Cell

variable {cell : Cell} {f : Focus σ}

/-- Without an answer in its cell an accessor of a position asks the engine once. -/
theorem call_inquires (free : f.cursor.memo.content cell = none) (valid : f.cursor.isNull = false) :
    Ensures (cell.call E) f fun _ after => inquiries (cell.query f.cursor.raw) after.world.calls =
      inquiries (cell.query f.cursor.raw) f.world.calls + 1 := by
  cases cell with
  | spelling =>
    rw [call, Ensures.map_iff, Cursor.spelling]
    apply Inspect.memoised_inquires (Option.map_eq_none_iff.mp free)
    rw [Ensures.bind_iff]
    apply (Cursor.queryText_inquires valid .spelling).mono
    rintro (e | text) w asked <;> exact asked
  | displayName =>
    rw [call, Ensures.map_iff, Cursor.displayName]
    exact Inspect.memoised_inquires (Option.map_eq_none_iff.mp free) (Cursor.queryText_inquires valid .displayName)
  | hash =>
    rw [call, Ensures.map_iff, Cursor.hash]
    apply Inspect.memoised_inquires (Option.map_eq_none_iff.mp free)
    obtain ⟨u, live⟩ := Cursor.exists_live valid
    simp only [Ensures.bind_iff, Ensures.settle_iff, live, Ensures.perform_iff]
    exact (inquiries_ask ..).trans (congrArg _ (if_pos rfl))
  | link l =>
    rw [call, Ensures.map_iff, Cursor.link]
    exact Inspect.memoised_inquires (Option.map_eq_none_iff.mp free) (Cursor.queryLink_inquires valid l)

/-- An accessor of the null cursor fails at once. -/
theorem call_null (free : f.cursor.memo.content cell = none) (null : f.cursor.isNull) :
    Ensures (cell.call E) f fun result after => (∃ e, result = .error e) ∧ after = f := by
  have dead (operation : String) := Cursor.live_of_isNull null operation
  cases cell <;>
    rw [call, Ensures.map_iff] <;>
    simp only [Cursor.spelling, Cursor.displayName, Cursor.hash, Cursor.link, Inspect.memoised_iff,
      Option.map_eq_none_iff.mp free, Cursor.queryText, Cursor.queryLink, Ensures.bind_iff, Ensures.settle_iff,
      dead] <;>
    exact ⟨⟨_, rfl⟩, trivial⟩

/-- Whether an accessor has an answer for every position: it takes whatever the engine returns. -/
def isTotal : Cell → Bool
  | .spelling | .displayName => false
  | .hash => true
  | .link l => l.isOptional

private theorem call_answers (free : f.cursor.memo.content cell = none) (valid : f.cursor.isNull = false)
    (total : cell.isTotal) : Ensures (cell.call E) f fun result _ => ∃ v, result = .ok v := by
  obtain ⟨u, live⟩ := Cursor.exists_live valid
  cases cell with
  | spelling => cases total
  | displayName => cases total
  | hash =>
    rw [call, Ensures.map_iff, Cursor.hash, Inspect.memoised_iff, Option.map_eq_none_iff.mp free]
    simp only [Ensures.bind_iff, Ensures.settle_iff, live, Ensures.perform_iff]
    exact ⟨_, rfl⟩
  | link l =>
    have optional : l.isOptional := total
    rw [call, Ensures.map_iff, Cursor.link, Inspect.memoised_iff, Option.map_eq_none_iff.mp free]
    simp only [Cursor.queryLink, Ensures.bind_iff, Ensures.settle_iff, live, Ensures.perform_iff, optional,
      if_true]
    split_ifs <;> exact ⟨_, rfl⟩

end Cell

/-! ## All calls of an accessor -/

/-- What has come of a call: whether it was answered, and how often the engine was asked. -/
structure Trial where
  answered : Bool
  inquiries : Nat
deriving DecidableEq, Repr

namespace Trial

/-- Calls that fail after one question to the engine each, and then perhaps one that is answered after one
question, and is answered again without any. -/
def untilAnswered (failures : Nat) : Option Nat → List Trial
  | none => .replicate failures ⟨false, 1⟩
  | some again => .replicate failures ⟨false, 1⟩ ++ ⟨true, 1⟩ :: .replicate again ⟨true, 0⟩

def total (record : List Trial) : Nat := (record.map inquiries).sum

private theorem untilAnswered_fail (failures : Nat) :
    untilAnswered failures none ++ [⟨false, 1⟩] = untilAnswered (failures + 1) none :=
  List.replicate_succ'.symm

private theorem untilAnswered_answer (failures : Nat) :
    untilAnswered failures none ++ [⟨true, 1⟩] = untilAnswered failures (some 0) := rfl

private theorem untilAnswered_again (failures again : Nat) :
    untilAnswered failures (some again) ++ [⟨true, 0⟩] = untilAnswered failures (some (again + 1)) := by
  simp [untilAnswered, List.replicate_succ']

/-- The engine is asked once for each failure and once for the answer. -/
theorem total_untilAnswered (failures : Nat) (again : Option Nat) :
    total (untilAnswered failures again) = failures + if again.isSome then 1 else 0 := by
  cases again <;> simp [total, untilAnswered]

private theorem total_of_null (calls : Nat) : total (.replicate calls ⟨false, 0⟩) = 0 := by
  simp [total]

/-- Without failures the engine is asked at most once. -/
theorem total_of_answered {failures : Nat} {again : Option Nat}
    (answered : ∀ t ∈ untilAnswered failures again, t.answered) : total (untilAnswered failures again) ≤ 1 := by
  have none_failed : failures = 0 := by
    by_contra failed
    have member : (⟨false, 1⟩ : Trial) ∈ untilAnswered failures again := by
      cases again <;> simp [untilAnswered, failed]
    cases answered _ member
  rw [total_untilAnswered, none_failed]
  split_ifs <;> omega

end Trial

namespace Cell

variable {cell : Cell} {c : Cursor}

def trial (E : Engine σ) (cell : Cell) (c : Cursor) (w : World σ) : Trial :=
  let called := (cell.call E).run ⟨c, w⟩
  ⟨called.1.isOk, inquiries (cell.query c.raw) called.2.world.calls - inquiries (cell.query c.raw) w.calls⟩

def afterTrial (E : Engine σ) (cell : Cell) (c : Cursor) (w : World σ) : Cursor :=
  ((cell.call E).run ⟨c, w⟩).2.cursor

private theorem afterTrial_place (w : World σ) : (cell.afterTrial E c w).place = c.place :=
  (cell.call_fills (E := E) ⟨c, w⟩).place

private theorem trial_of_null (free : c.memo.content cell = none) (null : c.isNull) (w : World σ) :
    cell.trial E c w = ⟨false, 0⟩ ∧ cell.afterTrial E c w = c := by
  have failed := call_null (E := E) (f := ⟨c, w⟩) free null
  rw [Ensures] at failed
  obtain ⟨⟨e, failed⟩, same⟩ := failed
  simp only [trial, afterTrial, failed, same, Nat.sub_self]
  exact ⟨rfl, trivial⟩

/-- A filled cell answers without a question to the engine. -/
theorem trial_of_filled {v : Content} (filled : c.memo.content cell = some v) (w : World σ) :
    cell.trial E c w = ⟨true, 0⟩ ∧ cell.afterTrial E c w = c := by
  have recalled := call_recalls (E := E) (f := ⟨c, w⟩) filled
  rw [Ensures] at recalled
  obtain ⟨answered, same⟩ := recalled
  simp only [trial, afterTrial, answered, same, Nat.sub_self]
  exact ⟨rfl, trivial⟩

/-- With an empty cell a call asks once, and an answer fills the cell. -/
theorem trial_of_free (free : c.memo.content cell = none) (valid : c.isNull = false) (w : World σ) :
    (cell.trial E c w = ⟨false, 1⟩ ∧ (cell.afterTrial E c w).memo.content cell = none) ∨
      (cell.trial E c w = ⟨true, 1⟩ ∧ ∃ v, (cell.afterTrial E c w).memo.content cell = some v) := by
  have asked := call_inquires (E := E) (f := ⟨c, w⟩) free valid
  have filled := call_filled (E := E) cell ⟨c, w⟩
  have restored := call_restores (E := E) cell ⟨c, w⟩
  rw [Ensures] at asked filled restored
  cases came : ((cell.call E).run ⟨c, w⟩).1 with
  | error e =>
    -- A call that fails has asked as well, and leaves the cell empty for the next one to ask again.
    refine .inl ⟨?_, ((restored ⟨e, came⟩).frame [] cell (by simp)).trans free⟩
    simp only [trial, came, asked, Nat.add_sub_cancel_left]
    rfl
  | ok v =>
    refine .inr ⟨?_, v, filled v came⟩
    simp only [trial, came, asked, Nat.add_sub_cancel_left]
    rfl

/-- The accessor of a position that cannot fail does not. -/
theorem trial_answered (valid : c.isNull = false) (total : cell.isTotal) (w : World σ) :
    (cell.trial E c w).answered := by
  cases free : c.memo.content cell with
  | none =>
    obtain ⟨v, answered⟩ : ∃ v, _ = _ := call_answers (E := E) (f := ⟨c, w⟩) free valid total
    simp only [trial, answered]
    rfl
  | some v => rw [(trial_of_filled free w).1]

end Cell

private theorem Cursor.isNull_of_place {c d : Cursor} (same : d.place = c.place) : d.isNull = c.isNull := by
  obtain ⟨raw, unit, -⟩ : _ ∧ _ ∧ _ := by simpa [place] using same
  rw [isNull, isNull, raw, unit]

/-- To fill other cells is to leave this one as it is. -/
theorem Cursor.Fills.content_eq {c d : Cursor} {cell : Cell}
    (fills : c.Fills (fun path other => ¬(path = [] ∧ other = cell)) d) :
    d.memo.content cell = c.memo.content cell :=
  fills.frame [] cell fun outside => outside ⟨rfl, rfl⟩

/-- What a cursor goes through, with a record of the calls of one of its accessors. The cell is empty at first.
Each call may find any world, and in between other cells are filled. -/
inductive Cursor.Life (E : Engine σ) (cell : Cell) : List Trial → Cursor → Prop
  | taken {c : Cursor} (free : c.memo.content cell = none) : Life E cell [] c
  | called {record : List Trial} {c : Cursor} (life : Life E cell record c) (w : World σ) :
      Life E cell (record ++ [cell.trial E c w]) (cell.afterTrial E c w)
  | elsewhere {record : List Trial} {c d : Cursor} (life : Life E cell record c)
      (fills : c.Fills (fun path other => ¬(path = [] ∧ other = cell)) d) : Life E cell record d

namespace Cursor.Life

variable {cell : Cell} {record : List Trial} {c : Cursor}

/-- On the null cursor every call fails at once. -/
theorem record_of_null (life : Life E cell record c) (null : c.isNull) :
    c.memo.content cell = none ∧ record = .replicate record.length ⟨false, 0⟩ := by
  induction life with
  | taken free => exact ⟨free, rfl⟩
  | @called record c _ w ih =>
    rw [isNull_of_place (Cell.afterTrial_place w)] at null
    obtain ⟨free, failed⟩ := ih null
    obtain ⟨trial, same⟩ := Cell.trial_of_null (E := E) free null w
    refine ⟨same.symm ▸ free, ?_⟩
    rw [trial, List.length_append, List.length_singleton, List.replicate_succ', ← failed]
  | elsewhere _ fills ih =>
    obtain ⟨free, failed⟩ := ih (isNull_of_place fills.place ▸ null)
    exact ⟨fills.content_eq.trans free, failed⟩

/-- An accessor of a position asks the engine for each call until one is answered, and then no more. -/
theorem record_of_valid (life : Life E cell record c) (valid : c.isNull = false) :
    ∃ failures again, record = Trial.untilAnswered failures again ∧
      again.isSome = (c.memo.content cell).isSome := by
  -- Along the life, the cell is filled exactly when the record has an answer.
  induction life with
  | taken free => exact ⟨0, none, rfl, by rw [free]; rfl⟩
  | @called record c _ w ih =>
    rw [isNull_of_place (Cell.afterTrial_place w)] at valid
    obtain ⟨failures, again, rfl, held⟩ := ih valid
    cases again with
    | none =>
      have free : c.memo.content cell = none := by simpa using held
      obtain ⟨trial, after⟩ | ⟨trial, v, after⟩ := Cell.trial_of_free (E := E) free valid w
      · exact ⟨failures + 1, none, by rw [trial, Trial.untilAnswered_fail], by rw [after]; rfl⟩
      · exact ⟨failures, some 0, by rw [trial, Trial.untilAnswered_answer], by rw [after]; rfl⟩
    | some again =>
      obtain ⟨v, filled⟩ := Option.isSome_iff_exists.mp held.symm
      obtain ⟨trial, same⟩ := Cell.trial_of_filled (E := E) filled w
      exact ⟨failures, some (again + 1), by rw [trial, Trial.untilAnswered_again], by rw [same, filled]; rfl⟩
  | elsewhere _ fills ih =>
    obtain ⟨failures, again, same, held⟩ := ih (isNull_of_place fills.place ▸ valid)
    exact ⟨failures, again, same, by rw [held, fills.content_eq]⟩

/-- Where an accessor cannot fail every call is answered. -/
theorem answered (life : Life E cell record c) (valid : c.isNull = false) (total : cell.isTotal) :
    ∀ t ∈ record, t.answered := by
  induction life with
  | taken => nofun
  | called _ w ih =>
    rw [isNull_of_place (Cell.afterTrial_place w)] at valid
    intro t member
    rcases List.mem_append.mp member with earlier | last
    · exact ih valid t earlier
    · rw [List.mem_singleton.mp last]
      exact Cell.trial_answered valid total w
  | elsewhere _ fills ih => exact ih (isNull_of_place fills.place ▸ valid)

end Cursor.Life

/-- How often the engine is asked for an accessor of one cursor, as the record of its calls tells. -/
structure Cursor.AsksUntilAnswered (cell : Cell) (c : Cursor) (record : List Trial) : Prop where
  /-- A failure is not remembered: every call asks until one is answered. -/
  position : c.isNull = false → ∃ failures again, record = Trial.untilAnswered failures again
  null : c.isNull → record = .replicate record.length ⟨false, 0⟩
  /-- It takes a failure for the engine to be asked twice. -/
  once : (∀ t ∈ record, t.answered) → Trial.total record ≤ 1
  total : cell.isTotal → Trial.total record ≤ 1

namespace Cursor.Life

variable {cell : Cell} {record : List Trial} {c : Cursor}

/-- Over the life of a cursor the engine is asked for an accessor until it has answered. -/
theorem asks_until_answered (life : Life E cell record c) : c.AsksUntilAnswered cell record := by
  cases null : c.isNull with
  | true =>
    have failing := (life.record_of_null null).2
    have silent : Trial.total record ≤ 1 := by
      rw [failing, Trial.total_of_null]
      exact Nat.zero_le 1
    exact ⟨fun valid => absurd (null.symm.trans valid) nofun, fun _ => failing, fun _ => silent, fun _ => silent⟩
  | false =>
    obtain ⟨failures, again, same, -⟩ := life.record_of_valid null
    have once (answered : ∀ t ∈ record, t.answered) : Trial.total record ≤ 1 := by
      rw [same] at answered ⊢
      exact Trial.total_of_answered answered
    exact ⟨fun _ => ⟨failures, again, same⟩, fun nowhere => absurd (null.symm.trans nowhere) nofun, once,
      fun total => once (life.answered null total)⟩

end Cursor.Life

/-! ## A text that the engine has lost -/

namespace Sample

/-- An engine that knows one source, whose only node has no text. -/
def unreadable : Script.State :=
  { sources := [([97], ⟨.text [97], .node 0, [{ node with texts := fun _ => .lost }], []⟩)] }

/-- A unit is parsed, and its root is asked for its name twice. -/
def askTwice : List Request :=
  requests.take 3 ++ [⟨.ask ⟨"root", []⟩ .spelling, none⟩, ⟨.ask ⟨"root", []⟩ .spelling, none⟩]

def position : Cursor := ⟨⟨300, 0, 2, 1, 0⟩, some ⟨1⟩, 0, .empty⟩

end Sample

/-- Two calls that fail have asked twice. -/
theorem Cursor.Life.asks_until_answered_sample :
    ∃ c, Life Script.engine .spelling [⟨false, 1⟩, ⟨false, 1⟩] c ∧
      c.AsksUntilAnswered .spelling [⟨false, 1⟩, ⟨false, 1⟩] := by
  let w := (Session.after Script.engine (pure ()) Sample.unreadable (Sample.askTwice.take 3)).world
  let once := Cell.spelling.afterTrial Script.engine Sample.position w
  have first : Cell.spelling.trial Script.engine Sample.position w = ⟨false, 1⟩ := by decide +kernel
  have second : Cell.spelling.trial Script.engine once w = ⟨false, 1⟩ := by decide +kernel
  have life : Life Script.engine .spelling [] Sample.position := .taken (by decide)
  have life := (life.called w).called w
  rw [first, second] at life
  exact ⟨_, life, life.asks_until_answered⟩

/-- The name of one cursor is asked for twice: no bound of one holds for accessors that can fail. -/
theorem Session.asked_again : ¬inquiries (.text .spelling Sample.position.raw)
    (Session.after Script.engine (pure ()) Sample.unreadable Sample.askTwice).world.calls ≤ 1 := by
  decide +kernel

end HandleGraph
