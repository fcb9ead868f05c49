import HandleGraph.Proofs.Iteration

/-! # Collecting and running through

Where each element depends on its position alone, the positions that an iterator has left have fixed
results. To collect them is to take these results up to the first failure, which is then the answer, and to
call the producer no further. To run through them, for their own sake or to count them or to find the last
one, is to call the producer for each of them, failures or not.
-/

namespace HandleGraph.Sequence

variable {σ α : Type}

/-- The answer of the producer depends on the position alone, whatever state the producer is in. -/
def Steady (s : Sequence (StateM σ) α) (element : Nat → Except Error α) : Prop :=
  ∀ index state, (s.produce index state).1 = element index

/-- The calls of the producer for some positions, one for each in their order. -/
def callsFor (element : Nat → Except Error α) (positions : List Nat) : List (Production α) :=
  positions.map fun index => ⟨index, element index⟩

namespace Steady

variable {s : Sequence (StateM σ) α} {element : Nat → Except Error α}

private theorem get (steady : s.Steady element) {index : Nat} (inside : index < s.length) (state : σ) :
    (s.get index state).1 = element index := by
  rw [Sequence.get, if_pos inside]
  exact steady index state

private theorem recorded_produce (steady : s.Steady element) (index : Nat) (state : σ) (calls : List (Production α)) :
    s.recorded.produce index (state, calls) =
      (element index, (s.produce index state).2, calls ++ callsFor element [index]) := by
  change ((s.produce index state).1, _, calls ++ [⟨index, (s.produce index state).1⟩]) = _
  rw [steady index state]
  rfl

end Steady

/-! ### The positions left -/

/-- The positions that are left when some have been taken, in the order in which one side takes them. -/
def Taken.leftover (length : Nat) (t : Taken) (side : Side) : List Nat :=
  side.order (List.range' t.front (length - t.total))

/-- An iterator has those positions left that have not been taken. -/
theorem Iterator.Has.left_range {it : Iterator} {length : Nat} {t : Taken} (has : it.Has length t)
    (side : Side) : it.left side (List.range length) = t.leftover length side := by
  have within : it.back ≤ length := by have back := has.back; omega
  have size : it.back - it.front = length - t.total := has.remaining
  rw [Iterator.left, Taken.leftover, List.take_range, Nat.min_eq_left within, ← has.front, ← size,
    List.range_eq_range', List.drop_range']
  simp

/-- A position that an iterator has taken from the list of all positions is the position itself. -/
theorem Iterator.left_range_of_take? {it rest : Iterator} {side : Side} {index length : Nat}
    (taken : it.take? side = some (index, rest)) (within : it.back ≤ length) :
    rest.back ≤ length ∧
      it.left side (List.range length) = index :: rest.left side (List.range length) := by
  have inside : it.back ≤ (List.range length).length := by rwa [List.length_range]
  obtain ⟨position, present, within, split⟩ := left_of_take? taken inside
  rw [List.length_range] at within
  obtain ⟨bound, same⟩ := List.getElem?_eq_some_iff.mp present
  rw [List.getElem_range] at same
  exact ⟨within, same ▸ split⟩

/-! ### Collecting -/

/-- Positions have been collected: their elements if there are no failures among them, or else the first
failure, for which the producer has been called last. -/
structure Collected (element : Nat → Except Error α) (positions : List Nat)
    (result : Except Error (List α)) (made : List (Production α)) : Prop where
  complete_iff : (∃ xs, result = .ok xs) ↔ ∀ index ∈ positions, ∃ x, element index = .ok x
  complete : ∀ xs, result = .ok xs →
    positions.map element = xs.map .ok ∧ made = callsFor element positions
  broken : ∀ e, result = .error e → ∃ before index after, positions = before ++ index :: after ∧
    (∀ earlier ∈ before, ∃ x, element earlier = .ok x) ∧ element index = .error e ∧
    made = callsFor element (before ++ [index])

namespace Collected

variable {element : Nat → Except Error α} {positions : List Nat} {index : Nat}

private theorem nil : Collected element [] (.ok []) [] where
  complete_iff := by simp
  complete := by
    rintro xs ⟨⟩
    exact ⟨rfl, rfl⟩
  broken := nofun

/-- An element goes before what is collected after it. -/
theorem cons {x : α} {later : Gathered α} {made : List (Production α)} (here : element index = .ok x)
    (collected : Collected element positions later.toExcept made) :
    Collected element (index :: positions) (Gathered.mk (x :: later.elements) later.failure).toExcept
      (callsFor element [index] ++ made) := by
  rcases later with ⟨elements, _ | e⟩
  · -- Nothing has failed later either.
    obtain ⟨same, calls⟩ := collected.complete elements rfl
    have none := collected.complete_iff.mp ⟨elements, rfl⟩
    refine ⟨⟨fun _ => ?_, fun _ => ⟨_, rfl⟩⟩, ?_, nofun⟩
    · exact List.forall_mem_cons.mpr ⟨⟨x, here⟩, none⟩
    · rintro xs ⟨⟩
      exact ⟨by rw [List.map_cons, List.map_cons, here, same], by rw [calls]; rfl⟩
  · obtain ⟨before, failing, after, split, before_ok, failed, calls⟩ := collected.broken e rfl
    refine ⟨⟨nofun, fun all => ?_⟩, nofun, ?_⟩
    · have failing_ok := all failing (List.mem_cons_of_mem _ (split ▸ List.mem_append_cons_self))
      rw [failed] at failing_ok
      exact nomatch failing_ok
    · rintro _ ⟨⟩
      refine ⟨index :: before, failing, after, by rw [split]; rfl, ?_, failed, by rw [calls]; rfl⟩
      exact List.forall_mem_cons.mpr ⟨⟨x, here⟩, before_ok⟩

/-- A failure ends the collecting. -/
theorem fail {e : Error} (here : element index = .error e) :
    Collected element (index :: positions) (.error e) (callsFor element [index]) where
  complete_iff := by
    refine ⟨nofun, fun all => ?_⟩
    have index_ok := all index List.mem_cons_self
    rw [here] at index_ok
    exact nomatch index_ok
  complete := nofun
  broken := by
    rintro _ ⟨⟩
    exact ⟨[], index, positions, rfl, nofun, here, rfl⟩

end Collected

namespace Steady

variable {s : Sequence (StateM σ) α} {element : Nat → Except Error α} {it : Iterator} {length : Nat}

/-- Gathering collects the positions that an iterator has left. -/
theorem gather (steady : s.Steady element) (side : Side) (within : it.back ≤ length) (state : σ)
    (calls : List (Production α)) :
    ∃ gathered after made, s.recorded.gather side it (state, calls) = (gathered, after, calls ++ made) ∧
      Collected element (it.left side (List.range length)) gathered.toExcept made := by
  unfold Sequence.gather
  -- There is as much fuel as there are positions left, so it runs dry with the iterator and not before.
  generalize size : it.remaining = fuel
  induction fuel generalizing it state calls with
  | zero =>
    rw [Iterator.left_of_none (Iterator.take?_eq_none_iff.mpr size)]
    exact ⟨⟨[], none⟩, state, [], by rw [List.append_nil]; rfl, .nil⟩
  | succ fuel ih =>
    unfold Sequence.gather.go
    rcases taken : it.take? side with _ | ⟨index, rest⟩
    · rw [Iterator.take?_eq_none_iff.mp taken] at size
      cases size
    · obtain ⟨within, split⟩ := Iterator.left_range_of_take? taken within
      have fewer := Iterator.remaining_of_take? taken
      rw [split]
      simp only [bind_apply, steady.recorded_produce]
      rcases here : element index with e | x
      · exact ⟨⟨[], some e⟩, _, _, rfl, .fail here⟩
      · obtain ⟨later, after, made, ran, collected⟩ :=
          ih within (s.produce index state).2 (calls ++ callsFor element [index]) (by omega)
        refine ⟨_, after, callsFor element [index] ++ made, ?_, .cons here collected⟩
        simp only [bind_apply, ran, List.append_assoc]
        rfl

private theorem collect (steady : s.Steady element) (side : Side) (within : it.back ≤ length) (state : σ)
    (calls : List (Production α)) :
    ∃ result after made, s.recorded.collect side it (state, calls) = (result, after, calls ++ made) ∧
      Collected element (it.left side (List.range length)) result made := by
  obtain ⟨gathered, after, made, ran, collected⟩ := steady.gather side within state calls
  refine ⟨gathered.toExcept, after, made, ?_, collected⟩
  rw [Sequence.collect, bind_apply, ran]
  rfl

/-- A drain calls the producer for each position that an iterator has left. -/
theorem drain (steady : s.Steady element) (side : Side) (within : it.back ≤ length) (state : σ)
    (calls : List (Production α)) :
    ∃ after, s.recorded.drain side it (state, calls) =
      ((it.left side (List.range length)).map element, after,
        calls ++ callsFor element (it.left side (List.range length))) := by
  unfold Sequence.drain
  generalize size : it.remaining = fuel
  induction fuel generalizing it state calls with
  | zero =>
    rw [Iterator.left_of_none (Iterator.take?_eq_none_iff.mpr size)]
    exact ⟨state, by simp only [callsFor, List.map_nil, List.append_nil]; rfl⟩
  | succ fuel ih =>
    unfold Sequence.drain.go
    rcases taken : it.take? side with _ | ⟨index, rest⟩
    · rw [Iterator.take?_eq_none_iff.mp taken] at size
      cases size
    · obtain ⟨within, split⟩ := Iterator.left_range_of_take? taken within
      have fewer := Iterator.remaining_of_take? taken
      obtain ⟨after, ran⟩ :=
        ih within (s.produce index state).2 (calls ++ callsFor element [index]) (by omega)
      refine ⟨after, ?_⟩
      simp only [bind_apply, steady.recorded_produce, ran, split, List.append_assoc]
      rfl

end Steady

/-! ### Courses -/

/-- A course in which `t` counts the positions that the iterator of a name has been through: what comes of
the positions that are left, and of a sequence as a whole, when they are collected or run through. -/
structure Finishes (s : Sequence (StateM σ) α) (element : Nat → Except Error α) (name : String) (t : Taken)
    (c : Course σ α) : Prop where
  /-- The positions left are positions of the sequence, each of them once. -/
  left : ∀ side, (t.leftover s.length side).Nodup ∧ ∀ index ∈ t.leftover s.length side, index < s.length
  /-- Their elements are those that an access within the length finds. -/
  found : ∀ index < s.length, ∀ state, (s.get index state).1 = element index
  /-- Collecting the iterator from either side stops at the first failure on its way. -/
  collect : ∀ side, ∃ result made, (c.step s (.collect name side)).turns =
      c.turns ++ [⟨.collect name side, .elements result, made⟩] ∧
    Collected element (t.leftover s.length side) result made
  /-- So does collecting the sequence, over all positions. -/
  toList : ∃ result made, (c.step s .toList).turns = c.turns ++ [⟨.toList, .elements result, made⟩] ∧
    Collected element (List.range s.length) result made
  /-- Running through the sequence asks for every position, and answers every result. -/
  each : (c.step s .each).turns = c.turns ++ [⟨.each, .results ((List.range s.length).map element),
    callsFor element (List.range s.length)⟩]
  /-- Running through the positions left does so from either side. -/
  drain : ∀ side, ∃ it, c.slots.find? name = some it ∧ ∀ state, ∃ after, s.recorded.drain side it (state, []) =
    ((t.leftover s.length side).map element, after, callsFor element (t.leftover s.length side))
  /-- Counting the positions left asks for each of them. -/
  count : (c.step s (.count name)).turns = c.turns ++ [⟨.count name, .count (s.length - t.total),
    callsFor element (t.leftover s.length .front)⟩]
  /-- So does looking for the last one, which is answered as it is, be it a failure. -/
  last : (c.step s (.last name)).turns = c.turns ++ [⟨.last name,
    .stepped ((t.leftover s.length .front).map element).getLast?, callsFor element (t.leftover s.length .front)⟩]
  /-- What has been noted of a step is what the sequence itself does. -/
  plain : ∀ step, ∃ reply calls, (c.step s step).turns = c.turns ++ [⟨step, reply, calls⟩] ∧
    s.step c.slots step c.state = ((reply, (c.step s step).slots), (c.step s step).state)

namespace Taken

variable {length : Nat} {t : Taken}

private theorem length_leftover (side : Side) : (t.leftover length side).length = length - t.total := by
  cases side <;> simp [leftover, Side.order]

private theorem nodup_leftover (side : Side) : (t.leftover length side).Nodup := by
  cases side
  · exact List.nodup_range'
  · exact (List.reverse_perm _).nodup_iff.mpr List.nodup_range'

private theorem lt_of_mem_leftover {side : Side} {index : Nat} (member : index ∈ t.leftover length side) :
    index < length := by
  have inside : index ∈ List.range' t.front (length - t.total) := by
    cases side
    · exact member
    · exact List.mem_reverse.mp member
  rw [List.mem_range'_1, total] at inside
  omega

end Taken

section Course

variable {s : Sequence (StateM σ) α} {element : Nat → Except Error α} {name : String} {t : Taken}
  {c : Course σ α}

private theorem Course.turns_step {move : Step} {reply : Reply α} {slots : SlotMap Iterator} {after : σ}
    {made : List (Production α)}
    (ran : s.recorded.step c.slots move (c.state, []) = ((reply, slots), after, made)) :
    (c.step s move).turns = c.turns ++ [⟨move, reply, made⟩] := by
  rw [Course.step, ran]

/-- Steps that collect, the iterator or the sequence. -/
theorem Course.collects (steady : s.Steady element) {side : Side} {it : Iterator} {positions : List Nat}
    (within : it.back ≤ s.length) (left : it.left side (List.range s.length) = positions)
    {move : Step} {slots : SlotMap Iterator}
    (works : s.recorded.step c.slots move = do return (.elements (← s.recorded.collect side it), slots)) :
    ∃ result made, (c.step s move).turns = c.turns ++ [⟨move, .elements result, made⟩] ∧
      Collected element positions result made := by
  obtain ⟨result, after, made, ran, collected⟩ := steady.collect side within c.state []
  have stepped : s.recorded.step c.slots move (c.state, []) = ((.elements result, slots), after, made) := by
    rw [works, bind_apply, ran]
    rfl
  exact ⟨result, made, turns_step stepped, left ▸ collected⟩

/-- Steps that run through the iterator or the sequence, and make an answer of the results. -/
theorem Course.runsThrough (steady : s.Steady element) {it : Iterator} {positions : List Nat}
    (within : it.back ≤ s.length) (left : it.left .front (List.range s.length) = positions)
    {move : Step} {slots : SlotMap Iterator} (answer : List (Except Error α) → Reply α)
    (works : s.recorded.step c.slots move = do return (answer (← s.recorded.drain .front it), slots)) :
    (c.step s move).turns =
      c.turns ++ [⟨move, answer (positions.map element), callsFor element positions⟩] := by
  obtain ⟨after, ran⟩ := steady.drain .front within c.state []
  have stepped : s.recorded.step c.slots move (c.state, []) =
      ((answer (positions.map element), slots), after, callsFor element positions) := by
    rw [works, bind_apply, ran, left]
    rfl
  exact turns_step stepped

private theorem Course.Progress.finishes (steady : s.Steady element) (progress : c.Progress s name t) :
    Finishes s element name t c := by
  obtain ⟨it, held, has⟩ := progress.iterator
  have within : it.back ≤ s.length := by have back := has.back; omega
  have whole : s.iter.left .front (List.range s.length) = List.range s.length :=
    Iterator.left_iter s .front List.length_range.symm
  -- The steps on an iterator find the one that is held.
  have works (work : Iterator → StateM (σ × List (Production α)) (Reply α × SlotMap Iterator)) :
      step.onIterator c.slots name work = work it := by
    rw [step.onIterator, held]
  refine ⟨fun side => ⟨t.nodup_leftover side, fun index => t.lt_of_mem_leftover⟩,
    fun index inside => steady.get inside, fun side => ?_, ?_, ?_, fun side => ?_, ?_, ?_, step_plain s c⟩
  · exact collects steady within (has.left_range side) (works _)
  · exact collects steady le_rfl whole rfl
  · exact runsThrough steady le_rfl whole .results rfl
  · refine ⟨it, held, fun state => ?_⟩
    rw [← has.left_range side]
    exact steady.drain side within state []
  · rw [← Taken.length_leftover .front, ← List.length_map element]
    exact runsThrough steady within (has.left_range .front) (fun all => .count all.length) (works _)
  · exact runsThrough steady within (has.left_range .front) (fun all => .stepped all.getLast?) (works _)

end Course

/-- Collecting, at any stage of an iterator and from either side, comes to every element that is left or to
the first failure on its way, past which the producer is not called; running through the elements calls it
for each of them. -/
theorem collecting_stops_at_first_failure (s : Sequence (StateM σ) α) {element : Nat → Except Error α}
    (steady : s.Steady element) (state : σ) (slots : SlotMap Iterator) (name : String) (steps : List Step)
    (keep : ∀ step ∈ steps, step.Keeps name) :
    Finishes s element name (steps.foldl (Taken.after s.length name) ⟨0, 0⟩)
      (Course.run s ⟨state, slots, []⟩ (.iter name :: steps)) :=
  ((Course.Progress.start s state slots name).run keep).finishes steady

/-- The elements of a table depend on their positions alone, although it notes each call. -/
theorem Table.steady (t : Table) (length : Nat) : (t.sequence length).Steady t.element :=
  fun _ _ => rfl

/-- Five elements, the third of which fails, after one has been taken from either end: what is left fails
in the middle. -/
theorem collecting_stops_in_table :
    let table := Table.mk [.ok 10, .ok 20, .error (.nativeQueryFailed "producer")] .position
    let steps : List Step := [.next "it" .front, .each, .next "it" .back]
    (table.sequence 5).Steady table.element ∧ (∀ step ∈ steps, step.Keeps "it") ∧
      Finishes (table.sequence 5) table.element "it" ⟨1, 1⟩
        (Course.run (table.sequence 5) ⟨[], .empty, []⟩ (.iter "it" :: steps)) := by
  intro table steps
  have keep : ∀ step ∈ steps, step.Keeps "it" := by simp [steps, Step.Keeps]
  exact ⟨table.steady 5, keep,
    collecting_stops_at_first_failure _ (table.steady 5) [] .empty "it" steps keep⟩

example :
    let s := (Table.mk [.ok 10, .ok 20, .error (.nativeQueryFailed "producer")] .position).sequence 5
    (s.collect .back ⟨1, 4, by decide⟩).run [] = (.error (.nativeQueryFailed "producer"), [3, 2]) := rfl

end HandleGraph.Sequence
