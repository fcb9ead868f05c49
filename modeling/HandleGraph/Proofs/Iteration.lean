import HandleGraph.Proofs.Execution
import HandleGraph.Proofs.SlotOrder
import HandleGraph.Sequence.Table

/-! # Iteration from both ends

The steps on one iterator, in any order and among steps on other iterators over the same sequence, take
the positions of the sequence from its two ends until they meet. Which positions have been taken is
counted by `Taken`, without looking at the iterator; the calls of the producer are noted by `recorded`,
which is the sequence itself with a list of its calls. Nothing is said of an iterator after a step that
consumes it, since its slot is empty then.
-/

namespace HandleGraph.Sequence

variable {σ α : Type}

/-! ### Noted calls -/

/-- One call of the producer: the position asked for, and the answer. -/
structure Production (α : Type) where
  position : Nat
  result : Except Error α

/-- A sequence whose producer notes each of its calls, the latest last. -/
def recorded (s : Sequence (StateM σ) α) : Sequence (StateM (σ × List (Production α))) α where
  length := s.length
  produce index := fun (state, calls) =>
    let (result, after) := s.produce index state
    (result, after, calls ++ [⟨index, result⟩])

/-- Work that does what other work does, and notes calls besides. -/
def Notes {β : Type} (noted : StateM (σ × List (Production α)) β) (plain : StateM σ β) : Prop :=
  ∀ state calls, ∃ made,
    noted (state, calls) = ((plain state).1, (plain state).2, calls ++ made)

namespace Notes

variable {β γ : Type}

private theorem pure (b : β) : Notes (α := α) (Pure.pure b) (Pure.pure b : StateM σ β) :=
  fun _ _ => ⟨[], by rw [List.append_nil]; rfl⟩

private theorem bind {noted : StateM (σ × List (Production α)) β} {plain : StateM σ β}
    {notedNext : β → StateM (σ × List (Production α)) γ} {plainNext : β → StateM σ γ}
    (first : Notes noted plain) (next : ∀ b, Notes (notedNext b) (plainNext b)) :
    Notes (noted >>= notedNext) (plain >>= plainNext) := by
  intro state calls
  obtain ⟨made, first⟩ := first state calls
  obtain ⟨later, next⟩ := next (plain state).1 (plain state).2 (calls ++ made)
  refine ⟨made ++ later, ?_⟩
  rw [bind_apply, bind_apply, first, next, List.append_assoc]

variable (s : Sequence (StateM σ) α)

private theorem produce (index : Nat) : Notes (s.recorded.produce index) (s.produce index) :=
  fun state _ => ⟨[⟨index, (s.produce index state).1⟩], rfl⟩

private theorem get (index : Nat) : Notes (s.recorded.get index) (s.get index) := by
  unfold Sequence.get
  change Notes (if index < s.length then _ else _) _
  split
  · exact produce s index
  · exact .pure _

private theorem back : Notes s.recorded.back s.back := by
  have length : s.recorded.length = s.length := rfl
  unfold Sequence.back
  rw [length]
  cases s.length with
  | zero => exact .pure _
  | succ n => exact get s n

private theorem next (side : Side) (it : Iterator) : Notes (s.recorded.next side it) (s.next side it) := by
  unfold Sequence.next
  split
  · exact (produce s _).bind fun _ => .pure _
  · exact .pure _

private theorem nth (side : Side) (it : Iterator) (count : Nat) :
    Notes (s.recorded.nth side it count) (s.nth side it count) := by
  induction count generalizing it with
  | zero => exact next s side it
  | succ count ih =>
    refine (next s side it).bind fun (result, rest) => ?_
    cases result with
    | some _ => exact ih rest
    | none => exact .pure _

private theorem drain (side : Side) (it : Iterator) : Notes (s.recorded.drain side it) (s.drain side it) := by
  unfold Sequence.drain
  generalize it.remaining = fuel
  induction fuel generalizing it with
  | zero => exact .pure _
  | succ fuel ih =>
    unfold Sequence.drain.go
    split
    · exact (produce s _).bind fun _ => (ih _).bind fun _ => .pure _
    · exact .pure _

private theorem gather (side : Side) (it : Iterator) : Notes (s.recorded.gather side it) (s.gather side it) := by
  unfold Sequence.gather
  generalize it.remaining = fuel
  induction fuel generalizing it with
  | zero => exact .pure _
  | succ fuel ih =>
    unfold Sequence.gather.go
    split
    · refine (produce s _).bind fun result => ?_
      cases result with
      | ok _ => exact (ih _).bind fun _ => .pure _
      | error _ => exact .pure _
    · exact .pure _

private theorem collect (side : Side) (it : Iterator) : Notes (s.recorded.collect side it) (s.collect side it) :=
  (gather s side it).bind fun _ => .pure _

private theorem onIterator {slots : SlotMap Iterator} {name : String}
    {noted : Iterator → StateM (σ × List (Production α)) (Reply α × SlotMap Iterator)}
    {plain : Iterator → StateM σ (Reply α × SlotMap Iterator)} (works : ∀ it, Notes (noted it) (plain it)) :
    Notes (step.onIterator slots name noted) (step.onIterator slots name plain) := by
  unfold step.onIterator
  split
  · exact works _
  · exact .pure _

/-- To note the calls changes no answer, no iterator and no state. -/
theorem step (slots : SlotMap Iterator) (step : Step) : Notes (s.recorded.step slots step) (s.step slots step) := by
  cases step with
  | length | describe | iter => exact .pure _
  | get index | front => exact (get s _).bind fun _ => .pure _
  | getUnchecked index => exact (produce s index).bind fun _ => .pure _
  | back => exact (back s).bind fun _ => .pure _
  | toList => exact (collect s _ _).bind fun _ => .pure _
  | each => exact (drain s _ _).bind fun _ => .pure _
  | next name side => exact onIterator fun it => (next s side it).bind fun _ => .pure _
  | nth name side count => exact onIterator fun it => (nth s side it count).bind fun _ => .pure _
  | remaining name => exact onIterator fun _ => .pure _
  | count name | last name => exact onIterator fun it => (drain s _ it).bind fun _ => .pure _
  | collect name side => exact onIterator fun it => (collect s side it).bind fun _ => .pure _

end Notes

/-! ### Counting the positions taken -/

/-- How many positions have been taken from either end. -/
structure Taken where
  front : Nat
  back : Nat
deriving DecidableEq, Repr

namespace Taken

def total (t : Taken) : Nat := t.front + t.back

def count (t : Taken) : Side → Nat
  | .front => t.front
  | .back => t.back

/-- How many of the positions wanted are left in a sequence of `length` elements. -/
def granted (length : Nat) (t : Taken) (wanted : Nat) : Nat := min wanted (length - t.total)

/-- What has been taken after the positions wanted at one end, as far as there are any. -/
def more (length : Nat) (t : Taken) (side : Side) (wanted : Nat) : Taken :=
  match side with
  | .front => { t with front := t.front + t.granted length wanted }
  | .back => { t with back := t.back + t.granted length wanted }

/-- The position that comes `index` positions after the outermost one at an end. -/
def place (length : Nat) (side : Side) (index : Nat) : Nat :=
  match side with
  | .front => index
  | .back => length - 1 - index

def positions (length : Nat) (t : Taken) (side : Side) : List Nat :=
  (List.range (t.count side)).map (place length side)

/-- The positions that come next at one end. -/
def upcoming (length : Nat) (t : Taken) (side : Side) (wanted : Nat) : List Nat :=
  (List.range' (t.count side) (t.granted length wanted)).map (place length side)

variable {length : Nat} {t : Taken} {side : Side} {wanted : Nat}

private theorem total_more : (t.more length side wanted).total = t.total + t.granted length wanted := by
  cases side <;> simp only [more, total] <;> omega

private theorem granted_of_none_left (spent : length ≤ t.total) : t.granted length wanted = 0 := by
  rw [granted]; omega

private theorem more_of_none_left (spent : length ≤ t.total) : t.more length side wanted = t := by
  cases side <;> simp only [more, granted_of_none_left spent, Nat.add_zero]

private theorem upcoming_of_none_left (spent : length ≤ t.total) : t.upcoming length side wanted = [] := by
  rw [upcoming, granted_of_none_left spent]; rfl

private theorem count_more : (t.more length side wanted).count side = t.count side + t.granted length wanted := by
  cases side <;> rfl

/-- Where there is a position left, one of those wanted is the first and the others follow it. -/
theorem granted_succ (side : Side) (wanted : Nat) (left : t.total < length) :
    t.granted length (wanted + 1) = 1 + (t.more length side 1).granted length wanted := by
  have one : (t.more length side 1).total = t.total + min 1 (length - t.total) := total_more
  simp only [granted, one]
  omega

private theorem more_succ (left : t.total < length) :
    t.more length side (wanted + 1) = (t.more length side 1).more length side wanted := by
  have apart := granted_succ side wanted left
  have one : t.granted length 1 = 1 := by rw [granted]; omega
  cases side <;> simp only [more, one] at apart ⊢ <;> simp only [apart, Nat.add_assoc]

private theorem upcoming_one (left : t.total < length) :
    t.upcoming length side 1 = [place length side (t.count side)] := by
  have one : t.granted length 1 = 1 := by rw [granted]; omega
  rw [upcoming, one]; rfl

private theorem upcoming_succ (left : t.total < length) :
    t.upcoming length side (wanted + 1) =
      t.upcoming length side 1 ++ (t.more length side 1).upcoming length side wanted := by
  have one : t.granted length 1 = 1 := by rw [granted]; omega
  rw [upcoming_one left, upcoming, upcoming, granted_succ side wanted left, count_more, one,
    ← List.range'_append_1, List.map_append]
  rfl

/-- The positions at one end go on with those that come next there, and those of the other end stay. -/
theorem positions_more (other : Side) :
    (t.more length side wanted).positions length other =
      t.positions length other ++ if other = side then t.upcoming length side wanted else [] := by
  by_cases same : other = side
  · subst same
    rw [if_pos rfl, positions, positions, upcoming, count_more, ← List.map_append, List.range_eq_range',
      List.range_eq_range', ← List.range'_append_1, Nat.zero_add]
  · rw [if_neg same, List.append_nil]
    cases side <;> cases other <;> first | rfl | exact absurd rfl same

/-- The positions taken from the front, those left, and those taken from the back in their reversed order
are all positions from the first to the last. -/
theorem positions_cover (within : t.total ≤ length) :
    t.positions length .front ++ List.range' t.front (length - t.total) ++
      (t.positions length .back).reverse = List.range length := by
  have front : t.positions length .front = List.range' 0 t.front := by
    rw [positions, List.range_eq_range']
    exact List.map_id _
  have back : (t.positions length .back).reverse = List.range' (length - t.back) t.back := by
    have within : t.back ≤ length := by rw [total] at within; omega
    refine List.ext_getElem (by simp [positions, count]) fun index bound other => ?_
    simp only [List.length_range'] at other
    simp only [positions, place, count, List.getElem_reverse, List.getElem_map, List.getElem_range,
      List.getElem_range', List.length_map, List.length_range]
    omega
  rw [total] at *
  have after : length - t.back = t.front + (length - (t.front + t.back)) := by omega
  have all : length = t.front + (length - (t.front + t.back)) + t.back := by omega
  rw [front, back, after, List.range_eq_range']
  conv_rhs => rw [all]
  rw [← List.range'_append_1, ← List.range'_append_1]
  simp only [Nat.zero_add]

end Taken

/-- The iterator has been through the positions taken, at either end. -/
structure Iterator.Has (it : Iterator) (length : Nat) (t : Taken) : Prop where
  front : it.front = t.front
  back : it.back + t.back = length

namespace Iterator.Has

variable {it : Iterator} {length : Nat} {t : Taken}

private theorem within (has : it.Has length t) : t.total ≤ length := by
  have ends := it.front_le_back
  obtain ⟨front, back⟩ := has
  rw [Taken.total]; omega

/-- What is left is what was not taken from either side. -/
theorem remaining (has : it.Has length t) : it.remaining = length - t.total := by
  obtain ⟨front, back⟩ := has
  rw [Iterator.remaining, Taken.total]; omega

private theorem spent (has : it.Has length t) (side : Side) (none : it.take? side = none) : length ≤ t.total := by
  obtain ⟨front, back⟩ := has
  unfold take? at none
  split at none
  · cases side <;> cases none
  · rw [Taken.total]; omega

/-- A position taken is the next one at that end. -/
theorem take {side : Side} {index : Nat} {rest : Iterator} (has : it.Has length t)
    (taken : it.take? side = some (index, rest)) :
    t.total < length ∧ index = Taken.place length side (t.count side) ∧
      rest.Has length (t.more length side 1) := by
  obtain ⟨front, back⟩ := has
  unfold take? at taken
  split at taken
  next open_ =>
    have left : t.total < length := by rw [Taken.total]; omega
    have one : t.granted length 1 = 1 := by rw [Taken.granted]; omega
    refine ⟨left, ?_⟩
    cases side <;> simp only [Option.some.injEq, Prod.mk.injEq] at taken <;> obtain ⟨rfl, rfl⟩ := taken
    · refine ⟨front, ?_, back⟩
      simp only [Taken.more, one, front]
    · refine ⟨?_, front, ?_⟩
      · simp only [Taken.place, Taken.count]; omega
      · simp only [Taken.more, one]; omega
  next => cases taken

end Iterator.Has

/-! ### Sequences that answer from a list -/

/-- A list as it is gone through from one side. -/
def Side.order {β : Type} : Side → List β → List β
  | .front, xs => xs
  | .back, xs => xs.reverse

namespace Iterator

variable {β : Type} {it rest : Iterator} {side : Side} {xs : List β}

/-- What an iterator has left of a list, in the order in which one side takes it. -/
def left (it : Iterator) (side : Side) (xs : List β) : List β := side.order ((xs.take it.back).drop it.front)

/-- An iterator takes the first of what it has left. -/
theorem left_of_take? {index : Nat} (taken : it.take? side = some (index, rest)) (inside : it.back ≤ xs.length) :
    ∃ x, xs[index]? = some x ∧ rest.back ≤ xs.length ∧ it.left side xs = x :: rest.left side xs := by
  unfold take? at taken
  split at taken
  next before =>
    cases side <;> simp only [Option.some.injEq, Prod.mk.injEq] at taken <;> obtain ⟨rfl, rfl⟩ := taken
    · have here : it.front < (xs.take it.back).length := by rw [List.length_take]; omega
      refine ⟨_, List.getElem?_eq_getElem (by omega), inside, ?_⟩
      rw [left, List.drop_eq_getElem_cons here, List.getElem_take]
      rfl
    · have here : it.back - 1 < xs.length := by omega
      refine ⟨_, List.getElem?_eq_getElem here, by simp only; omega, ?_⟩
      have split : xs.take it.back = xs.take (it.back - 1) ++ [xs[it.back - 1]] := by
        rw [List.take_append_getElem here, Nat.sub_add_cancel (by omega)]
      rw [left, split, List.drop_append_of_le_length (by rw [List.length_take]; omega)]
      exact List.reverse_append
  next => cases taken

/-- An iterator has nothing for one side just when it has nothing at all. -/
theorem take?_eq_none_iff : it.take? side = none ↔ it.remaining = 0 := by
  unfold take? remaining
  split
  · cases side <;> simp only [reduceCtorEq, false_iff] <;> omega
  · simp only [true_iff]
    omega

theorem left_of_none (none : it.take? side = none) (xs : List β) : it.left side xs = [] := by
  have ends := take?_eq_none_iff.mp none
  unfold remaining at ends
  rw [left, List.drop_eq_nil_of_le (by rw [List.length_take]; omega)]
  cases side <;> rfl

/-- At first everything is left, in the order of the side. -/
theorem left_iter {m : Type → Type} (s : Sequence m α) (side : Side) (all : s.length = xs.length) :
    s.iter.left side xs = side.order xs := by
  change side.order ((xs.take s.length).drop 0) = _
  rw [all, List.take_length, List.drop_zero]

end Iterator

/-- With nothing left there is no step. -/
theorem next_of_none_left {β : Type} (s : Sequence (StateM σ) α) {side : Side} {it : Iterator} {xs : List β}
    (inside : it.back ≤ xs.length) (none : it.left side xs = []) (state : σ) :
    s.next side it state = ((.none, it), state) := by
  rcases taken : it.take? side with _ | ⟨index, rest⟩
  · rw [next, taken]
    rfl
  · obtain ⟨y, -, -, split⟩ := Iterator.left_of_take? taken inside
    rw [split] at none
    cases none

/-- The producer answers from a list, and each answer changes the state alike. -/
def AnswersFrom {β : Type} (s : Sequence (StateM σ) α) (xs : List β) (answer : β → Except Error α)
    (grow : σ → σ) : Prop :=
  ∀ index x, xs[index]? = some x → ∀ state, s.produce index state = (answer x, grow state)

namespace AnswersFrom

variable {β : Type} {s : Sequence (StateM σ) α} {xs : List β} {answer : β → Except Error α} {grow : σ → σ}
  {side : Side} {it : Iterator}

/-- Each step hands out the next of what is left. -/
theorem next (answers : s.AnswersFrom xs answer grow) {x : β} {later : List β} (inside : it.back ≤ xs.length)
    (left : it.left side xs = x :: later) (state : σ) :
    ∃ rest, s.next side it state = ((some (answer x), rest), grow state) ∧ rest.back ≤ xs.length ∧
      rest.left side xs = later := by
  rcases taken : it.take? side with _ | ⟨index, rest⟩
  · rw [Iterator.left_of_none taken] at left
    cases left
  · obtain ⟨y, present, within, split⟩ := Iterator.left_of_take? taken inside
    rw [split, List.cons.injEq] at left
    obtain ⟨rfl, rfl⟩ := left
    refine ⟨rest, ?_, within, rfl⟩
    rw [Sequence.next, taken]
    simp only [bind_apply, answers index y present]
    rfl

/-- A drain hands out everything that is left. -/
theorem drain (answers : s.AnswersFrom xs answer grow) (inside : it.back ≤ xs.length) (state : σ) :
    s.drain side it state = ((it.left side xs).map answer, grow^[it.remaining] state) := by
  unfold Sequence.drain
  -- A drain has as much fuel as there are positions left, so it runs dry with the iterator and not before.
  generalize size : it.remaining = fuel
  induction fuel generalizing it state with
  | zero =>
    rw [Iterator.left_of_none (Iterator.take?_eq_none_iff.mpr size)]
    rfl
  | succ fuel ih =>
    unfold Sequence.drain.go
    rcases taken : it.take? side with _ | ⟨index, rest⟩
    · rw [Iterator.take?_eq_none_iff.mp taken] at size
      cases size
    · obtain ⟨y, present, within, split⟩ := Iterator.left_of_take? taken inside
      have fewer := Iterator.remaining_of_take? taken
      simp only [bind_apply, answers index y present]
      rw [ih within _ (by omega), split, Function.iterate_succ_apply]
      rfl

end AnswersFrom

/-! ### Single steps -/

/-- A step for some positions at one end takes those there are, calls the producer for them in their
order, and answers the last call's result, or none when there were too few. -/
structure Moves (length : Nat) (t : Taken) (side : Side) (wanted : Nat) (result : Option (Except Error α))
    (rest : Iterator) (made : List (Production α)) : Prop where
  rest : rest.Has length (t.more length side wanted)
  positions : made.map (·.position) = t.upcoming length side wanted
  result : result = if wanted ≤ length - t.total then made.getLast?.map (·.result) else none

namespace Moves

variable {length : Nat} {t : Taken} {side : Side} {wanted : Nat} {it : Iterator}

private theorem of_none_left (has : it.Has length t) (spent : length ≤ t.total) :
    Moves (α := α) length t side (wanted + 1) none it [] where
  rest := by rw [Taken.more_of_none_left spent]; exact has
  positions := (Taken.upcoming_of_none_left spent).symm
  result := by rw [if_neg (by omega)]

private theorem succ {first : Option (Except Error α)} {result : Option (Except Error α)} {middle rest : Iterator}
    {made later : List (Production α)} (left : t.total < length)
    (one : Moves length t side 1 first middle made)
    (more : Moves length (t.more length side 1) side (wanted + 1) result rest later) :
    Moves length t side (wanted + 2) result rest (made ++ later) where
  rest := by rw [Taken.more_succ left]; exact more.rest
  positions := by rw [Taken.upcoming_succ left, List.map_append, one.positions, more.positions]
  result := by
    have total : (t.more length side 1).total = t.total + 1 := by
      rw [Taken.total_more, Taken.granted]; omega
    rw [more.result, total]
    by_cases enough : wanted + 2 ≤ length - t.total
    · rw [if_pos (by omega), if_pos enough]
      have some : later ≠ [] := by
        rintro rfl
        have none := more.positions
        rw [Taken.upcoming_succ (by omega), Taken.upcoming_one (by omega)] at none
        cases none
      rw [List.getLast?_append_of_ne_nil _ some]
    · rw [if_neg (by omega), if_neg enough]

/-- A single step. -/
theorem next (s : Sequence (StateM σ) α) (side : Side) (has : it.Has s.length t) (state : σ)
    (calls : List (Production α)) :
    ∃ made, (s.recorded.next side it (state, calls)).2.2 = calls ++ made ∧
      Moves s.length t side 1 (s.recorded.next side it (state, calls)).1.1
        (s.recorded.next side it (state, calls)).1.2 made := by
  rcases taken : it.take? side with _ | ⟨index, rest⟩
  · have ran : s.recorded.next side it = pure (none, it) := by rw [Sequence.next, taken]
    rw [ran]
    exact ⟨[], (List.append_nil _).symm, .of_none_left has (has.spent side taken)⟩
  · have ran : s.recorded.next side it = do return (some (← s.recorded.produce index), rest) := by
      rw [Sequence.next, taken]
    obtain ⟨left, rfl, has⟩ := has.take taken
    rw [ran]
    refine ⟨[⟨_, (s.produce _ state).1⟩], rfl, has, (Taken.upcoming_one left).symm, ?_⟩
    rw [if_pos (by omega)]
    rfl

/-- A step over several positions. -/
theorem nth (s : Sequence (StateM σ) α) (side : Side) (count : Nat) (has : it.Has s.length t) (state : σ)
    (calls : List (Production α)) :
    ∃ made, (s.recorded.nth side it count (state, calls)).2.2 = calls ++ made ∧
      Moves s.length t side (count + 1) (s.recorded.nth side it count (state, calls)).1.1
        (s.recorded.nth side it count (state, calls)).1.2 made := by
  induction count generalizing it t state calls with
  | zero => exact next s side has state calls
  | succ count ih =>
    obtain ⟨made, grown, one⟩ := next s side has state calls
    rw [Sequence.nth, bind_apply]
    rcases ran : s.recorded.next side it (state, calls) with ⟨⟨first, rest⟩, state, after⟩
    rw [ran] at grown one
    subst grown
    cases first with
    | some element =>
      have left : t.total < s.length := by
        by_contra spent
        have none := one.result
        rw [if_neg (by omega)] at none
        cases none
      obtain ⟨later, grown, more⟩ := ih one.rest state (calls ++ made)
      exact ⟨made ++ later, grown.trans (List.append_assoc ..), one.succ left more⟩
    | none =>
      have spent : s.length ≤ t.total := by
        by_contra left
        have some := one.result
        have positions := one.positions
        rw [Taken.upcoming_one (by omega)] at positions
        rw [if_pos (by omega)] at some
        cases made with
        | nil => cases positions
        | cons => simp [List.getLast?_cons] at some
      have unmoved := one.rest
      rw [Taken.more_of_none_left spent] at unmoved
      have nothing : made = [] := by
        have positions := one.positions
        rwa [Taken.upcoming_of_none_left spent, List.map_eq_nil_iff] at positions
      subst nothing
      exact ⟨[], rfl, .of_none_left unmoved spent⟩

end Moves

/-! ### Courses -/

/-- The end at which a step goes on with the iterator of a name, and for how many positions: those that
it discards, and the one that it answers. -/
def Step.takes? (name : String) : Step → Option (Side × Nat)
  | .next other side => if other = name then some (side, 1) else none
  | .nth other side skipped => if other = name then some (side, skipped + 1) else none
  | _ => none

/-- The step does not replace or consume the iterator of a name. -/
def Step.Keeps (name : String) : Step → Prop
  | .iter other | .count other | .last other | .collect other _ => other ≠ name
  | _ => True

def Taken.after (length : Nat) (name : String) (t : Taken) (step : Step) : Taken :=
  match step.takes? name with
  | some (side, wanted) => t.more length side wanted
  | none => t

/-- A step that has been carried out, with its answer and the calls of the producer that it made. -/
structure Turn (α : Type) where
  step : Step
  reply : Reply α
  calls : List (Production α)

/-- A sequence in use: the state of the producer, the iterators, and the steps so far. -/
structure Course (σ α : Type) where
  state : σ
  slots : SlotMap Iterator
  turns : List (Turn α)

/-- Carry out one more step, and note the calls that it makes. -/
def Course.step (s : Sequence (StateM σ) α) (c : Course σ α) (step : Step) : Course σ α :=
  let done := s.recorded.step c.slots step (c.state, [])
  ⟨done.2.1, done.1.2, c.turns ++ [⟨step, done.1.1, done.2.2⟩]⟩

def Course.run (s : Sequence (StateM σ) α) (c : Course σ α) (steps : List Step) : Course σ α :=
  steps.foldl (step s) c

/-- The calls made by the steps at one end of the iterator of a name, in their order. -/
def Course.callsAt (name : String) (side : Side) (c : Course σ α) : List (Production α) :=
  c.turns.flatMap fun turn => if (turn.step.takes? name).map (·.1) = some side then turn.calls else []

section Steps

variable {name : String} {t : Taken} {move : Step} (s : Sequence (StateM σ) α)

/-- A step at one end of an iterator. -/
theorem Moves.of_step {side : Side} {wanted : Nat} {slots : SlotMap Iterator} {it : Iterator}
    (takes : move.takes? name = some (side, wanted)) (held : slots.find? name = some it)
    (has : it.Has s.length t) (state : σ) :
    ∃ result rest after made,
      s.recorded.step slots move (state, []) = ((.stepped result, slots.insert name rest), after, made) ∧
        Moves s.length t side wanted result rest made := by
  cases move with
  | next other end_ =>
    simp only [Step.takes?, Option.ite_none_right_eq_some, Option.some.injEq, Prod.mk.injEq] at takes
    obtain ⟨rfl, rfl, rfl⟩ := takes
    obtain ⟨made, grown, moves⟩ := Moves.next s end_ has state []
    refine ⟨_, _, (s.recorded.next end_ it (state, [])).2.1, made, ?_, moves⟩
    rw [Sequence.step, step.onIterator, held, ← List.nil_append made, ← grown]
    rfl
  | nth other end_ skipped =>
    simp only [Step.takes?, Option.ite_none_right_eq_some, Option.some.injEq, Prod.mk.injEq] at takes
    obtain ⟨rfl, rfl, rfl⟩ := takes
    obtain ⟨made, grown, moves⟩ := Moves.nth s end_ skipped has state []
    refine ⟨_, _, (s.recorded.nth end_ it skipped (state, [])).2.1, made, ?_, moves⟩
    rw [Sequence.step, step.onIterator, held, ← List.nil_append made, ← grown]
    rfl
  | _ => cases takes

/-- A step elsewhere leaves the iterator of a name alone. -/
theorem step_frame (keeps : move.Keeps name) (takes : move.takes? name = none) (slots : SlotMap Iterator)
    (state : σ × List (Production α)) :
    (s.recorded.step slots move state).1.2.find? name = slots.find? name := by
  have onIterator (other : String)
      (work : Iterator → StateM (σ × List (Production α)) (Reply α × SlotMap Iterator))
      (frame : ∀ it, (work it state).1.2.find? name = slots.find? name) :
      (step.onIterator slots other work state).1.2.find? name = slots.find? name := by
    unfold step.onIterator
    cases slots.find? other with
    | some it => exact frame it
    | none => rfl
  cases move with
  | iter other => exact (SlotMap.find?_insert ..).trans (if_neg (Ne.symm keeps))
  | next other side | nth other side skipped =>
    have apart : name ≠ other := by rintro rfl; simp [Step.takes?] at takes
    exact onIterator other _ fun it => (SlotMap.find?_insert ..).trans (if_neg apart)
  | count other | last other | collect other side =>
    exact onIterator other _ fun it => (SlotMap.find?_erase ..).trans (if_neg (Ne.symm keeps))
  | remaining other => exact onIterator other _ fun _ => rfl
  | _ => rfl

end Steps

/-- The iterator of a name has been through the positions taken, and the calls were for these. -/
structure Course.Progress (s : Sequence (StateM σ) α) (name : String) (t : Taken) (c : Course σ α) :
    Prop where
  iterator : ∃ it, c.slots.find? name = some it ∧ it.Has s.length t
  called : ∀ side, (c.callsAt name side).map (·.position) = t.positions s.length side

namespace Course

variable {s : Sequence (StateM σ) α} {name : String} {t : Taken} {c : Course σ α}

private theorem callsAt_append (side : Side) (state : σ) (slots : SlotMap Iterator) (turn : Turn α) :
    callsAt name side ⟨state, slots, c.turns ++ [turn]⟩ =
      c.callsAt name side ++
        if (turn.step.takes? name).map (·.1) = some side then turn.calls else [] := by
  simp only [callsAt, List.flatMap_append, List.flatMap_cons, List.flatMap_nil, List.append_nil]

/-- What the course notes of a step is what the sequence itself does. -/
theorem step_plain (s : Sequence (StateM σ) α) (c : Course σ α) (step : Step) :
    ∃ reply calls, (c.step s step).turns = c.turns ++ [⟨step, reply, calls⟩] ∧
      s.step c.slots step c.state = ((reply, (c.step s step).slots), (c.step s step).state) := by
  obtain ⟨made, noted⟩ := Notes.step s c.slots step c.state []
  refine ⟨_, _, rfl, ?_⟩
  simp only [Course.step, noted]
  rfl

/-- A fresh iterator. -/
theorem Progress.start (s : Sequence (StateM σ) α) (state : σ) (slots : SlotMap Iterator) (name : String) :
    (step s ⟨state, slots, []⟩ (.iter name)).Progress s name ⟨0, 0⟩ where
  iterator := ⟨s.iter, (SlotMap.find?_insert ..).trans (if_pos rfl), rfl, rfl⟩
  called side := by cases side <;> rfl

private theorem Progress.step (progress : c.Progress s name t) {step : Step} (keeps : step.Keeps name) :
    (c.step s step).Progress s name (t.after s.length name step) := by
  obtain ⟨⟨it, held, has⟩, called⟩ := progress
  rcases takes : step.takes? name with _ | ⟨side, wanted⟩
  · have unmoved : t.after s.length name step = t := by rw [Taken.after, takes]
    rw [unmoved]
    refine ⟨⟨it, (step_frame s keeps takes ..).trans held, has⟩, fun side => ?_⟩
    rw [Course.step, callsAt_append, takes, if_neg nofun, List.append_nil, called]
  · obtain ⟨result, rest, after, made, stepped, moves⟩ := Moves.of_step s takes held has c.state
    have moved : t.after s.length name step = t.more s.length side wanted := by rw [Taken.after, takes]
    rw [moved, Course.step, stepped]
    refine ⟨⟨rest, (SlotMap.find?_insert ..).trans (if_pos rfl), moves.rest⟩, fun other => ?_⟩
    rw [callsAt_append, takes, List.map_append, called, Taken.positions_more]
    simp only [Option.map_some, Option.some.injEq, @eq_comm _ side]
    split
    · rw [moves.positions]
    · rfl

/-- Steps that keep an iterator keep its progress, by induction on them. -/
theorem Progress.run (progress : c.Progress s name t) {steps : List Step}
    (keep : ∀ step ∈ steps, step.Keeps name) :
    (c.run s steps).Progress s name (steps.foldl (Taken.after s.length name) t) := by
  induction steps generalizing c t with
  | nil => exact progress
  | cons step rest ih =>
    exact ih (progress.step (keep step List.mem_cons_self)) fun later member =>
      keep later (List.mem_cons_of_mem _ member)

end Course

/-- A course in which `t` counts the positions that the iterator of a name has been through. -/
structure Covers (s : Sequence (StateM σ) α) (name : String) (t : Taken) (c : Course σ α) : Prop where
  /-- The steps never take more positions than there are. -/
  within : t.front + t.back ≤ s.length
  /-- The steps at the front have called the producer with `0`, `1`, … and those at the back with
  `length - 1`, `length - 2`, …, in this order and each as often as `t` counts. -/
  called : ∀ side, (c.callsAt name side).map (·.position) = t.positions s.length side
  /-- These positions are all apart, and with those between them none is missing. -/
  each_once : t.positions s.length .front ++ List.range' t.front (s.length - (t.front + t.back)) ++
    (t.positions s.length .back).reverse = List.range s.length
  /-- The iterator counts the positions left, in numbers that do not go past the length. -/
  left : ∃ it, c.slots.find? name = some it ∧ it.back ≤ s.length ∧
    it.remaining + (t.front + t.back) = s.length
  /-- It answers the number of positions left. -/
  remaining : s.step c.slots (.remaining name) c.state =
    ((.remaining (s.length - (t.front + t.back)), c.slots), c.state)
  /-- A further step calls the producer for the positions that come next, and answers the last of its
  results as it is, be it an error; if there are too few positions left the step answers none. -/
  goes_on : ∀ step side wanted, step.takes? name = some (side, wanted) → ∃ made,
    (c.step s step).turns = c.turns ++ [⟨step, .stepped (if wanted ≤ s.length - (t.front + t.back) then
      made.getLast?.map (·.result) else none), made⟩] ∧
    made.map (·.position) = t.upcoming s.length side wanted
  /-- Once all positions have been taken, a further step answers none and calls no producer. -/
  ends : t.front + t.back = s.length → ∀ step side wanted, step.takes? name = some (side, wanted) →
    (c.step s step).turns = c.turns ++ [⟨step, .stepped none, []⟩]
  /-- What has been noted of a further step is what the sequence itself does. -/
  plain : ∀ step, ∃ reply calls, (c.step s step).turns = c.turns ++ [⟨step, reply, calls⟩] ∧
    s.step c.slots step c.state = ((reply, (c.step s step).slots), (c.step s step).state)

private theorem Course.Progress.goes_on {s : Sequence (StateM σ) α} {name : String} {t : Taken} {c : Course σ α}
    (progress : c.Progress s name t) {step : Step} {side : Side} {wanted : Nat}
    (takes : step.takes? name = some (side, wanted)) :
    ∃ made, (c.step s step).turns = c.turns ++ [⟨step, .stepped (if wanted ≤ s.length - t.total then
        made.getLast?.map (·.result) else none), made⟩] ∧
      made.map (·.position) = t.upcoming s.length side wanted := by
  obtain ⟨it, held, has⟩ := progress.iterator
  obtain ⟨result, rest, after, made, stepped, moves⟩ := Moves.of_step s takes held has c.state
  refine ⟨made, ?_, moves.positions⟩
  rw [Course.step, stepped, moves.result]

private theorem Step.one_le_of_takes? {name : String} {step : Step} {side : Side} {wanted : Nat}
    (takes : step.takes? name = some (side, wanted)) : 1 ≤ wanted := by
  cases step <;> simp only [Step.takes?, Option.ite_none_right_eq_some, Option.some.injEq, Prod.mk.injEq,
    reduceCtorEq] at takes <;> omega

private theorem Course.Progress.covers {s : Sequence (StateM σ) α} {name : String} {t : Taken} {c : Course σ α}
    (progress : c.Progress s name t) : Covers s name t c := by
  obtain ⟨it, held, has⟩ := progress.iterator
  refine ⟨has.within, progress.called, Taken.positions_cover has.within, ⟨it, held, ?_, ?_⟩, ?_,
    fun step side wanted => progress.goes_on, fun full step side wanted takes => ?_, step_plain s c⟩
  · have back := has.back; omega
  · have within := has.within; rw [has.remaining, Taken.total] at *; omega
  · rw [Sequence.step, step.onIterator, held]
    exact congrArg (fun left => ((Reply.remaining left, c.slots), c.state)) has.remaining
  · obtain ⟨made, turns, positions⟩ := progress.goes_on takes
    have spent : s.length ≤ t.total := full.ge
    rw [Taken.upcoming_of_none_left spent, List.map_eq_nil_iff] at positions
    subst positions
    have wants := Step.one_le_of_takes? takes
    rw [turns, if_neg (by omega)]

/-- The steps on an iterator, from either end and over any number of positions, cover each position of the
sequence at most once and in order, whatever other steps come between them. -/
theorem iteration_covers_each_position (s : Sequence (StateM σ) α) (state : σ) (slots : SlotMap Iterator)
    (name : String) (steps : List Step) (keep : ∀ step ∈ steps, step.Keeps name) :
    Covers s name (steps.foldl (Taken.after s.length name) ⟨0, 0⟩)
      (Course.run s ⟨state, slots, []⟩ (.iter name :: steps)) :=
  ((Course.Progress.start s state slots name).run keep).covers

/-- Five elements, the second of which fails: two iterators go on side by side, and one of them has taken
the first two positions and the last three when it ends. -/
theorem iteration_covers_table :
    let s := (Table.mk [.ok 10, .error (.nativeQueryFailed "producer")] .position).sequence 5
    let steps : List Step := [.next "it" .front, .iter "other", .nth "it" .back 2, .next "other" .back,
      .next "it" .front, .nth "it" .back 0]
    (∀ step ∈ steps, step.Keeps "it") ∧
      Covers s "it" ⟨2, 3⟩ (Course.run s ⟨[], .empty, []⟩ (.iter "it" :: steps)) := by
  intro s steps
  have keep : ∀ step ∈ steps, step.Keeps "it" := by simp [steps, Step.Keeps]
  exact ⟨keep, iteration_covers_each_position s [] .empty "it" steps keep⟩

end HandleGraph.Sequence
