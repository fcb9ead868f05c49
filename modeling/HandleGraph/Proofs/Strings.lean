import HandleGraph.Proofs.Disposal

/-! # Strings come and go within an operation

Every string that an engine returns has its turn: its text is read, and then it is disposed. The books
count the strings that wait for either, and between two operations there are none. With a fresh handle
the turn shows in the ledger as it is, in this order and within one operation.
-/

namespace HandleGraph

variable {σ : Type} {E : Engine σ} {load : Loading σ Unit} {s : Session σ}

/-- The turn of a string: it is made, its text is read, and it is disposed. -/
def StringHandle.turn (t : StringHandle) : List Passage := [.stringMade t, .stringRead t, .stringDisposed t]

@[simp] theorem StringHandle.mem_turn_iff {t : StringHandle} {p : Passage} :
    p ∈ t.turn ↔ p = .stringMade t ∨ p = .stringRead t ∨ p = .stringDisposed t := by
  simp [turn]

private theorem StringHandle.stringMade_mem_turn (t : StringHandle) : .stringMade t ∈ t.turn := by simp

private theorem StringHandle.stringRead_mem_turn (t : StringHandle) : .stringRead t ∈ t.turn := by simp

private theorem StringHandle.stringDisposed_mem_turn (t : StringHandle) : .stringDisposed t ∈ t.turn := by simp

def turnsOf (t : StringHandle) (calls : List Call) : List Passage := (ledger calls).filter (· ∈ t.turn)

private theorem turnsOf_append (t : StringHandle) (calls more : List Call) :
    turnsOf t (calls ++ more) = turnsOf t calls ++ turnsOf t more := by
  rw [turnsOf, ledger_append, List.filter_append]
  rfl

private theorem turnsOf_concat_none {t : StringHandle} {calls : List Call} {call : Call}
    (other : ∀ p ∈ t.turn, call.passage? ≠ some p) : turnsOf t (calls ++ [call]) = turnsOf t calls := by
  have nothing : call.passage?.toList.filter (· ∈ t.turn) = [] := by
    refine List.filter_eq_nil_iff.mpr fun p passed mine => ?_
    exact other p (of_decide_eq_true mine) (Option.mem_toList.mp passed)
  rw [turnsOf, ledger_concat, List.filter_append, nothing, List.append_nil]
  rfl

private theorem turnsOf_concat_some {t : StringHandle} {calls : List Call} {call : Call} {p : Passage}
    (mine : p ∈ t.turn) (passed : call.passage? = some p) :
    turnsOf t (calls ++ [call]) = turnsOf t calls ++ [p] := by
  rw [turnsOf, ledger_concat, List.filter_append, passed, Option.toList_some,
    List.filter_cons_of_pos (by simpa using mine), List.filter_nil]
  rfl

/-- No string that an engine is said to have made is null. -/
theorem not_isNull_of_stringMade {t : StringHandle} {calls : List Call}
    (made : .stringMade t ∈ ledger calls) : t.isNull = false := by
  obtain ⟨call, -, passed⟩ := List.mem_filterMap.mp made
  cases call with
  | walked c walk => cases passed
  | asked q answer =>
    cases q <;> simp only [Call.passage?, Option.ite_none_left_eq_some, Option.some.injEq, reduceCtorEq,
      and_false, Passage.stringMade.injEq] at passed
    all_goals exact passed.2 ▸ Bool.eq_false_iff.mpr passed.1

/-- How often the passages of a string have occurred, all together. -/
def progress (t : StringHandle) (calls : List Call) : Nat :=
  (ledger calls).count (.stringMade t) + (ledger calls).count (.stringRead t) +
    (ledger calls).count (.stringDisposed t)

/-- The strings that are owned are those that are not read or not disposed yet. What passed of a handle
that was returned only once is a beginning of its turn. -/
structure Turns (calls : List Call) (held : Multiset Owner) : Prop where
  read : ∀ t, (ledger calls).count (.stringRead t) + held.count (.string t false) =
    (ledger calls).count (.stringMade t)
  disposed : ∀ t, (ledger calls).count (.stringDisposed t) + held.count (.string t true) =
    (ledger calls).count (.stringRead t)
  inTurn : ∀ t, (ledger calls).count (.stringMade t) ≤ 1 → turnsOf t calls = t.turn.take (progress t calls)

namespace Turns

variable {calls : List Call} {held after : Multiset Owner} {call : Call} {t : StringHandle}

private theorem start : Turns [] 0 where
  read _ := rfl
  disposed _ := rfl
  inTurn _ _ := rfl

/-- What is owned besides strings does not matter. -/
theorem still (turns : Turns calls held)
    (same : ∀ t read, after.count (.string t read) = held.count (.string t read)) : Turns calls after where
  read t := by rw [same, turns.read]
  disposed t := by rw [same, turns.disposed]
  inTurn := turns.inTurn

private theorem count_other (other : ∀ p ∈ t.turn, call.passage? ≠ some p) {p : Passage} (mine : p ∈ t.turn) :
    (ledger (calls ++ [call])).count p = (ledger calls).count p := by
  rw [count_ledger_concat, if_neg (other p mine), Nat.add_zero]

/-- A call that is none of the turn of a string. -/
private theorem inTurn_other (turns : Turns calls held) (other : ∀ p ∈ t.turn, call.passage? ≠ some p)
    (fresh : (ledger (calls ++ [call])).count (.stringMade t) ≤ 1) :
    turnsOf t (calls ++ [call]) = t.turn.take (progress t (calls ++ [call])) := by
  have same : progress t (calls ++ [call]) = progress t calls := by
    simp only [progress, count_other other t.stringMade_mem_turn, count_other other t.stringRead_mem_turn,
      count_other other t.stringDisposed_mem_turn]
  rw [count_other other t.stringMade_mem_turn] at fresh
  rw [turnsOf_concat_none other, turns.inTurn t fresh, same]

/-- The call that is next in the turn of one string is none of the turn of any other. -/
private theorem inTurn_next (turns : Turns calls held) {k : Nat} {p : Passage} (passed : call.passage? = some p)
    (next : t.turn[k]? = some p)
    (reached : (ledger (calls ++ [call])).count (.stringMade t) ≤ 1 → progress t calls = k) (u : StringHandle)
    (fresh : (ledger (calls ++ [call])).count (.stringMade u) ≤ 1) :
    turnsOf u (calls ++ [call]) = u.turn.take (progress u (calls ++ [call])) := by
  have mine : p ∈ t.turn := List.mem_of_getElem? next
  by_cases here : u = t
  · subst here
    have before : (ledger calls).count (.stringMade u) ≤ 1 := by
      rw [count_ledger_concat] at fresh
      omega
    have later : progress u (calls ++ [call]) = progress u calls + 1 := by
      simp only [progress, count_ledger_concat, passed]
      rcases StringHandle.mem_turn_iff.mp mine with rfl | rfl | rfl <;> simp <;> omega
    rw [turnsOf_concat_some mine passed, turns.inTurn u before, later, reached fresh, List.take_add_one, next]
    rfl
  · refine turns.inTurn_other (fun q others => ?_) fresh
    rw [passed]
    rw [StringHandle.mem_turn_iff] at mine others
    rcases mine with rfl | rfl | rfl <;> rcases others with rfl | rfl | rfl <;> simp [Ne.symm here]

/-- A call by which no string passes. -/
theorem other (turns : Turns calls held) (other : ∀ t, ∀ p ∈ StringHandle.turn t, call.passage? ≠ some p) :
    Turns (calls ++ [call]) held where
  read t := by
    rw [count_other (other t) t.stringMade_mem_turn, count_other (other t) t.stringRead_mem_turn, turns.read]
  disposed t := by
    rw [count_other (other t) t.stringRead_mem_turn, count_other (other t) t.stringDisposed_mem_turn,
      turns.disposed]
  inTurn t := turns.inTurn_other (other t)

private theorem receive (turns : Turns calls held) (made : call.passage? = some (.stringMade t)) :
    Turns (calls ++ [call]) (.string t false ::ₘ held) where
  read u := by
    have read := turns.read u
    simp only [count_ledger_concat, made, Multiset.count_cons, Option.some.injEq, Passage.stringMade.injEq,
      Owner.string.injEq, and_true, reduceCtorEq, ↓reduceIte, eq_comm (a := u)]
    omega
  disposed u := by simpa [count_ledger_concat, made] using turns.disposed u
  inTurn := by
    refine turns.inTurn_next (k := 0) made rfl fun fresh => ?_
    have read := turns.read t
    have disposed := turns.disposed t
    simp only [count_ledger_concat, made, ↓reduceIte] at fresh
    simp only [progress]
    omega

private theorem readString (turns : Turns calls (.string t false ::ₘ held)) (text : Option String) :
    Turns (calls ++ [.asked (.readString t) text]) (.string t true ::ₘ held) where
  read u := by
    have read := turns.read u
    simp only [count_ledger_concat, Call.passage?, Multiset.count_cons, Option.some.injEq,
      Passage.stringRead.injEq, Owner.string.injEq, and_true, Bool.false_eq_true, and_false, reduceCtorEq,
      ↓reduceIte, eq_comm (a := u)] at read ⊢
    omega
  disposed u := by
    have disposed := turns.disposed u
    simp only [count_ledger_concat, Call.passage?, Multiset.count_cons, Option.some.injEq,
      Passage.stringRead.injEq, Owner.string.injEq, and_true, Bool.true_eq_false, and_false, reduceCtorEq,
      ↓reduceIte, eq_comm (a := u)] at disposed ⊢
    omega
  inTurn := by
    refine turns.inTurn_next (t := t) (k := 1) rfl rfl fun fresh => ?_
    have read := turns.read t
    have disposed := turns.disposed t
    rw [Multiset.count_cons_self] at read
    simp only [count_ledger_concat, Call.passage?, Option.some.injEq, reduceCtorEq, ↓reduceIte] at fresh
    simp only [progress]
    omega

private theorem dispose (turns : Turns calls (.string t true ::ₘ held)) :
    Turns (calls ++ [.asked (.disposeString t) ()]) held where
  read u := by simpa [count_ledger_concat, Call.passage?] using turns.read u
  disposed u := by
    have disposed := turns.disposed u
    simp only [count_ledger_concat, Call.passage?, Multiset.count_cons, Option.some.injEq,
      Passage.stringDisposed.injEq, Owner.string.injEq, and_true, reduceCtorEq, ↓reduceIte,
      eq_comm (a := u)] at disposed ⊢
    omega
  inTurn := by
    refine turns.inTurn_next (t := t) (k := 2) rfl rfl fun fresh => ?_
    have read := turns.read t
    have disposed := turns.disposed t
    rw [Multiset.count_cons_self] at disposed
    simp only [count_ledger_concat, Call.passage?, Option.some.injEq, reduceCtorEq, ↓reduceIte] at fresh
    simp only [progress]
    omega

/-- Every entry lets each string go on in its turn. -/
theorem entry {b later : Books} (entered : Books.Entry (b, held) (later, after))
    (turns : Turns b.calls held) : Turns later.calls after := by
  cases entered with
  | call plain => exact turns.other (by simp [plain])
  | openIndex valid =>
    refine Turns.still (turns.other ?_) (by simp)
    simp [Call.passage?]
  | openUnit made =>
    refine Turns.still (turns.other ?_) (by simp)
    simp [made]
  | ownIndex | ownUnit | disownIndex | disownUnit => exact turns.still (by simp)
  | closeIndex last =>
    refine Turns.still (turns.other ?_) (by simp)
    simp [Call.passage?]
  | closeUnit last =>
    refine Turns.still (turns.other ?_) (by simp)
    simp [Call.passage?]
  | receiveString made => exact turns.receive made
  | readString valid => exact turns.readString _
  | disposeString valid => exact turns.dispose

private theorem course {before after : Books × Multiset Owner} (ran : Books.Course before after)
    (turns : Turns before.1.calls before.2) : Turns after.1.calls after.2 := by
  induction ran with
  | refl => exact turns
  | tail _ entered ih => exact ih.entry entered

end Turns

/-! ## Taking one string -/

/-- There is nothing to read in a null handle and nothing to dispose. -/
theorem takeOptionalString_of_isNull {t : StringHandle} (null : t.isNull = true) (w : World σ) :
    takeOptionalString E t w = (none, w) := by
  rw [takeOptionalString, if_pos null]
  rfl

/-- The text is read and the string disposed, whether there is a text or not. -/
theorem takeOptionalString_calls {t : StringHandle} (valid : t.isNull = false) (w : World σ) :
    (takeOptionalString E t w).2.calls =
      w.calls ++ [.asked (.readString t) (takeOptionalString E t w).1, .asked (.disposeString t) ()] := by
  rw [takeOptionalString, if_neg (Bool.eq_false_iff.mp valid)]
  exact List.append_assoc ..

/-- An operation that needs a text fails without one, after the string was disposed. -/
theorem takeString_run (t : StringHandle) (operation : String) (w : World σ) :
    (takeString E t operation).run w =
      ((takeOptionalString E t w).1.elim (.error (.nativeQueryFailed operation)) .ok,
        (takeOptionalString E t w).2) := by
  have taken : Ensures (takeString E t operation) w fun result after =>
      (result, after) = ((takeOptionalString E t w).1.elim (.error (.nativeQueryFailed operation)) .ok,
        (takeOptionalString E t w).2) := by
    rw [takeString, Ensures.bind_iff, Ensures.perform_iff]
    cases (takeOptionalString E t w).1 <;> rfl
  exact taken

/-! ## Runs -/

/-- As many strings are read and disposed as are made. -/
structure StringsDone (calls : List Call) : Prop where
  read : ∀ t, (ledger calls).count (.stringRead t) = (ledger calls).count (.stringMade t)
  disposed : ∀ t, (ledger calls).count (.stringDisposed t) = (ledger calls).count (.stringMade t)

theorem StringsDone.of_append {calls more : List Call} (before : StringsDone calls)
    (all : StringsDone (calls ++ more)) : StringsDone more := by
  constructor <;> intro t
  · have first := before.read t
    have whole := all.read t
    rw [ledger_append, List.count_append, List.count_append] at whole
    omega
  · have first := before.disposed t
    have whole := all.disposed t
    rw [ledger_append, List.count_append, List.count_append] at whole
    omega

/-- Nothing null is read or disposed. -/
theorem StringsDone.valid {calls : List Call} (done : StringsDone calls) {t : StringHandle} {p : Passage}
    (mine : p ∈ t.turn) (passed : p ∈ ledger calls) : t.isNull = false := by
  suffices made : .stringMade t ∈ ledger calls from not_isNull_of_stringMade made
  have occurs := List.count_pos_iff.mpr passed
  rw [← List.count_pos_iff]
  rcases StringHandle.mem_turn_iff.mp mine with rfl | rfl | rfl
  · exact occurs
  · rwa [done.read] at occurs
  · rwa [done.disposed] at occurs

/-- When no string is held any more, each has been read and disposed. -/
theorem Turns.done {calls : List Call} {held : Multiset Owner} (turns : Turns calls held)
    (none : ∀ t read, held.count (.string t read) = 0) : StringsDone calls := by
  constructor <;> intro t
  · simpa [none] using turns.read t
  · have read := turns.read t
    simpa [none, ← read] using turns.disposed t

/-- A fresh string that was disposed has taken its whole turn. -/
theorem Turns.turnsOf_eq {calls : List Call} {held : Multiset Owner} (turns : Turns calls held)
    (done : StringsDone calls) {t : StringHandle} (made : (ledger calls).count (.stringMade t) = 1) :
    turnsOf t calls = t.turn := by
  rw [turns.inTurn t made.le, progress, done.read, done.disposed, made]
  rfl

private theorem turnsOf_eq_nil {calls : List Call} (done : StringsDone calls) {t : StringHandle}
    (unmade : (ledger calls).count (.stringMade t) = 0) : turnsOf t calls = [] := by
  refine List.filter_eq_nil_iff.mpr fun p passed mine => ?_
  have occurs := List.count_pos_iff.mpr passed
  rcases StringHandle.mem_turn_iff.mp (of_decide_eq_true mine) with rfl | rfl | rfl <;>
    simp only [done.read, done.disposed, unmade] at occurs <;>
    exact absurd occurs (lt_irrefl 0)

private theorem Object.count_string_owners (o : Object) (t : StringHandle) (read : Bool) :
    o.owners.count (.string t read) = 0 := by
  refine Multiset.count_eq_zero.mpr ?_
  cases o <;> simp [owners, Cursor.mem_owners_iff]

namespace Session

/-- No object in a slot owns a string. -/
theorem count_string_owners (s : Session σ) (t : StringHandle) (read : Bool) :
    s.owners.count (.string t read) = 0 := by
  refine Multiset.count_eq_zero.mpr fun own => ?_
  obtain ⟨o, -, mine⟩ := Owner.mem_sum_map.mp own
  exact Multiset.count_ne_zero.mpr mine (o.count_string_owners t read)

/-- A request keeps the strings in their turns. -/
theorem turns_step (silent : Silent load) (sound : s.Sound) {r : Request} (graph : r.command.OnGraph)
    (turns : Turns s.world.calls s.owners) :
    Turns (step E load r s).2.world.calls (step E load r s).2.owners := by
  obtain ⟨b, course, renewed⟩ := (step_stepped (E := E) silent sound r graph).entered
  have entered : Turns b.calls (step E load r s).2.owners := turns.course course
  have same : (step E load r s).2.world.calls = b.calls := by
    change (step E load r s).2.books.calls = b.calls
    rw [renewed]
    cases s.renewed r (step E load r s).1 <;> rfl
  rwa [same]

/-- Between requests no object holds a string, by induction on the requests. -/
theorem turns_after (silent : Silent load) (engine : σ) {requests : List Request}
    (graph : ∀ r ∈ requests, r.command.OnGraph) :
    Turns (after E load engine requests).world.calls (after E load engine requests).owners := by
  induction requests using List.reverseRecOn with
  | nil => exact .start
  | append_singleton earlier r ih =>
    have upTo : ∀ r ∈ earlier, r.command.OnGraph := fun r member => graph r (List.mem_append_left _ member)
    rw [after_concat]
    exact turns_step silent (Kept.after silent engine upTo).sound (graph r (by simp)) (ih upTo)

/-- Between two moments every string that is made is read and disposed. If its handle was returned only
once it takes its whole turn, in order. -/
def TurnsUntil (s after : Session σ) : Prop :=
  ∃ calls, after.world.calls = s.world.calls ++ calls ∧ StringsDone calls ∧
    ∀ t, .stringMade t ∈ ledger calls → (ledger after.world.calls).count (.stringMade t) ≤ 1 →
      turnsOf t calls = t.turn

private theorem turnsUntil {s after : Session σ} {held : Multiset Owner} (before : StringsDone s.world.calls)
    (turns : Turns after.world.calls held) (done : StringsDone after.world.calls)
    (grown : s.world.calls <+: after.world.calls) : s.TurnsUntil after := by
  obtain ⟨calls, same⟩ := grown
  rw [← same] at turns done
  refine ⟨calls, same.symm, before.of_append done, fun t made fresh => ?_⟩
  rw [← same] at fresh
  have once : (ledger calls).count (.stringMade t) = 1 ∧ (ledger s.world.calls).count (.stringMade t) = 0 := by
    have occurs := List.count_pos_iff.mpr made
    rw [ledger_append, List.count_append] at fresh
    omega
  have whole := turns.turnsOf_eq done (t := t) (by rw [ledger_append, List.count_append, once.1, once.2])
  rwa [turnsOf_append, turnsOf_eq_nil before once.2] at whole

/-- Between two operations no string is outstanding: an operation reads and disposes, in this order, each
string that it is given, once, whether there was a text or not. Null strings are left alone. -/
theorem strings_read_and_disposed (silent : Silent load) (engine : σ) (requests : List Request)
    (graph : ∀ r ∈ requests, r.command.OnGraph) :
    (∀ earlier, earlier <+: requests → StringsDone (after E load engine earlier).world.calls) ∧
    (∀ earlier r, earlier ++ [r] <+: requests →
      (after E load engine earlier).TurnsUntil (after E load engine (earlier ++ [r]))) ∧
    (after E load engine requests).TurnsUntil (ended E load engine requests) ∧
    (start engine).TurnsUntil (ended E load engine requests) ∧
    (∀ t, .stringRead t ∈ ledger (ended E load engine requests).world.calls ∨
      .stringDisposed t ∈ ledger (ended E load engine requests).world.calls → t.isNull = false) ∧
    ∀ (t : StringHandle) (operation : String) (w : World σ),
      (if t.isNull then takeOptionalString E t w = (none, w) else (takeOptionalString E t w).2.calls =
        w.calls ++ [.asked (.readString t) (takeOptionalString E t w).1, .asked (.disposeString t) ()]) ∧
      (takeString E t operation).run w =
        ((takeOptionalString E t w).1.elim (.error (.nativeQueryFailed operation)) .ok,
          (takeOptionalString E t w).2) := by
  have turns {earlier : List Request} (begins : earlier <+: requests) :
      Turns (after E load engine earlier).world.calls (after E load engine earlier).owners :=
    turns_after silent engine fun r member => graph r (begins.subset member)
  have done {earlier : List Request} (begins : earlier <+: requests) :
      StringsDone (after E load engine earlier).world.calls :=
    (turns begins).done (count_string_owners _)
  have closing := (close_enters (E := E) (after E load engine requests)).1
  have closed : Turns (ended E load engine requests).world.calls 0 :=
    (turns List.prefix_rfl).course closing
  have finished : StringsDone (ended E load engine requests).world.calls := closed.done (by simp)
  refine ⟨fun earlier begins => done begins, fun earlier r begins => ?_, ?_, ?_, ?_,
    fun t operation w => ⟨?_, ?_⟩⟩
  · have grown := after_extends (E := E) silent engine (fun r member => graph r (begins.subset member))
      (List.prefix_append earlier [r])
    exact turnsUntil (done ((List.prefix_append _ _).trans begins)) (turns begins) (done begins) grown.calls
  · exact turnsUntil (done List.prefix_rfl) closed finished (Books.Extends.course closing).calls
  · exact turnsUntil (done List.nil_prefix) closed finished List.nil_prefix
  · rintro t (read | disposed)
    · exact finished.valid t.stringRead_mem_turn read
    · exact finished.valid t.stringDisposed_mem_turn disposed
  · split_ifs with null
    · exact takeOptionalString_of_isNull null w
    · exact takeOptionalString_calls (Bool.eq_false_iff.mpr null) w
  · exact takeString_run t operation w

theorem strings_read_and_disposed_sample :
    turnsOf ⟨3, 1⟩ (ended Script.engine (pure ()) Sample.script Sample.requests).world.calls =
      [.stringMade ⟨3, 1⟩, .stringRead ⟨3, 1⟩, .stringDisposed ⟨3, 1⟩] := by
  obtain ⟨-, -, -, ⟨calls, same, -, turn⟩, -⟩ :=
    strings_read_and_disposed silent_pure Sample.script Sample.requests Sample.requests_onGraph
  have whole : (ended Script.engine (pure ()) Sample.script Sample.requests).world.calls = calls :=
    same.trans (List.nil_append _)
  rw [whole]
  refine turn ⟨3, 1⟩ ?_ (by decide +kernel)
  rw [← whole]
  decide +kernel

end Session

end HandleGraph
