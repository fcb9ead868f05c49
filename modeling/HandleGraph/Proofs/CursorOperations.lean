import HandleGraph.Proofs.Operations
import HandleGraph.Session.Step

/-! # What operations on cursors enter

A cursor that is made or copied owns its unit. The elements of a sequence are cursors of its unit and
generation, whenever they are reached, and those gathered before a failure are let go of.
-/

namespace HandleGraph

variable {σ : Type} {E : Engine σ} {w : World σ} {held : Multiset Owner} {u : TranslationUnit}
  {generation : UInt64}

namespace Cursor

/-- A live cursor with an owner of its unit meets what a call asks of it. -/
theorem Live.law {c : Cursor} (live : c.Live w.books u generation) (own : .unit u ∈ held) :
    (w.books.heldBy held).cursor c.raw := ⟨live.valid, u, own, live.source⟩

/-- A copy is of the same unit and generation. -/
theorem clone_course {c : Cursor} (rooted : c.Rooted w.books u generation)
    (own : ∀ v, c.unit = some v → .unit v ∈ held) :
    Books.Course (w.books, held) ((c.clone w).2.books, (c.clone w).1.owners + held) ∧
      (c.clone w).1.Rooted (c.clone w).2.books u generation := by
  cases rooted with
  | absent =>
    refine ⟨?_, .absent⟩
    change Books.Course _ (w.books, 0 + held)
    rw [zero_add]
  | position live =>
    obtain ⟨raw, unit, _, memo⟩ := c
    obtain ⟨rfl, rfl, known, valid, source⟩ := live
    exact ⟨make_course (own u rfl), rooted_make known valid source⟩

/-- The unit that is asked to compare is held by one of the two cursors. -/
theorem equal_course {c d : Cursor} {v : TranslationUnit} {other : UInt64}
    (first : c.Rooted w.books u generation) (second : d.Rooted w.books v other)
    (own : ∀ v, c.unit = some v ∨ d.unit = some v → .unit v ∈ held) :
    Books.Course (w.books, held) ((c.equal E d w).2.books, held) := by
  unfold equal
  split_ifs with any
  · apply ask_course rfl
    have law {c : Cursor} {v other} (rooted : c.Rooted w.books v other)
        (own : ∀ v, c.unit = some v → .unit v ∈ held) :
        (w.books.heldBy held).cursor c.raw ∨ c = null := by
      cases rooted with
      | absent => exact .inr rfl
      | position live => exact .inl (live.law (own _ live.unit))
    rcases law first fun v here => own v (.inl here) with first | rfl
    · exact .inl ⟨first, (law second fun v here => own v (.inr here)).imp_right (congrArg raw)⟩
    · rcases law second fun v here => own v (.inr here) with second | rfl
      · exact .inr ⟨rfl, second⟩
      · simp [null] at any
  · exact .refl

end Cursor

namespace CursorSequence

variable {s : CursorSequence}

/-- An element is a cursor of the unit and the generation of the sequence. -/
theorem produce_enters (own : .unit s.unit ∈ held) (sound : s.Sound w.books) (index : Nat) :
    Enters (s.produce E index) w held Cursor.owners fun b c => c.Rooted b s.unit s.generation := by
  unfold Enters produce
  cases source : s.source with
  | children raws =>
    simp only
    cases present : raws[index]? with
    | none => exact .refl
    | some raw =>
      obtain ⟨valid, child⟩ := sound.children raws source raw (List.mem_of_getElem? present)
      exact ⟨Cursor.make_course own, Cursor.rooted_make sound.known valid child⟩
  | arguments parent count =>
    obtain ⟨valid, parentOf⟩ := sound.parent parent count source
    simp only
    split_ifs with beyond
    · exact .refl
    · have asked : Books.Course (w.books, held)
          ((ask E (.argument parent (UInt32.ofNat index)) w).2.books, held) :=
        ask_course rfl ⟨valid, s.unit, own, parentOf⟩
      simp only [Ensures.bind_iff, Ensures.perform_iff]
      split_ifs with absent
      · exact asked
      · refine ⟨asked.trans (Cursor.make_course own), ?_⟩
        have grown := Books.Extends.course asked
        refine Cursor.rooted_make (w := (ask E (.argument parent (UInt32.ofNat index)) w).2) sound.known
          (Bool.eq_false_iff.mpr absent) (.argument (parentOf.mono grown.calls.subset) List.mem_concat_self)

def owners (elements : List Cursor) : Multiset Owner := (elements.map Cursor.owners).sum

private theorem owners_cons (c : Cursor) (rest : List Cursor) (held : Multiset Owner) :
    owners (c :: rest) + held = owners rest + (c.owners + held) := by
  simp only [owners, List.map_cons, List.sum_cons]
  abel

/-- Letting go of cursors one by one gives up what each of them owned. -/
theorem dropAll_course (elements : List Cursor) :
    Books.Course (w.books, owners elements + held)
      ((elements.forM (Cursor.drop E) w).2.books, held) := by
  induction elements generalizing w with
  | nil =>
    change Books.Course (w.books, 0 + held) _
    rw [zero_add]
    exact .refl
  | cons c rest ih =>
    rw [owners_cons, add_left_comm]
    exact c.drop_course.trans ih

/-- What has been entered when elements of a sequence were produced, cursors of its unit and generation. -/
structure Produced (s : CursorSequence) (w : World σ) (held : Multiset Owner) (elements : List Cursor)
    (after : World σ) : Prop where
  entered : Books.Course (w.books, held) (after.books, owners elements + held)
  rooted : ∀ c ∈ elements, c.Rooted after.books s.unit s.generation

namespace Produced

private theorem nil {after : World σ} (entered : Books.Course (w.books, held) (after.books, held)) :
    s.Produced w held [] after :=
  ⟨by simpa [owners] using entered, nofun⟩

private theorem cons {c : Cursor} {rest : List Cursor} {middle after : World σ}
    (first : Books.Course (w.books, held) (middle.books, c.owners + held))
    (rooted : c.Rooted middle.books s.unit s.generation)
    (later : s.Produced middle (c.owners + held) rest after) : s.Produced w held (c :: rest) after := by
  refine ⟨?_, List.forall_mem_cons.mpr ⟨rooted.mono (.course later.entered), later.rooted⟩⟩
  rw [owners_cons]
  exact first.trans later.entered

end Produced

/-- Elements are gathered, each with its own share of the unit, until one fails or none is left. -/
theorem gather_produced (own : .unit s.unit ∈ held) (sound : s.Sound w.books) (side : Sequence.Side)
    (it : Sequence.Iterator) :
    s.Produced w held ((s.toSequence E).gather side it w).1.elements
      ((s.toSequence E).gather side it w).2 := by
  unfold Sequence.gather
  generalize it.remaining = fuel
  induction fuel generalizing it w held with
  | zero => exact .nil .refl
  | succ fuel ih =>
    unfold Sequence.gather.go
    cases it.take? side with
    | none => exact .nil .refl
    | some taken =>
      obtain ⟨index, rest⟩ := taken
      rcases (produce_enters (E := E) own sound index).cases with
        ⟨c, middle, ran, entered, rooted⟩ | ⟨e, middle, ran, entered⟩ <;>
        simp only [bind_apply, show (s.toSequence E).produce index w = _ from ran]
      · have still : .unit s.unit ∈ c.owners + held := Multiset.mem_add.mpr (.inr own)
        exact .cons entered rooted (ih still (sound.mono (.course entered)) rest)
      · exact .nil entered

/-- Every element of a sequence, unless one of them fails. -/
theorem toList_enters (own : .unit s.unit ∈ held) (sound : s.Sound w.books) :
    Enters (s.toList E) w held owners fun b all => ∀ c ∈ all, c.Rooted b s.unit s.generation := by
  unfold Enters toList
  rw [Ensures.bind_iff, Ensures.perform_iff]
  have gathered := gather_produced (E := E) own sound .front (s.toSequence E).iter
  simp only [Sequence.Gathered.toExcept]
  cases ((s.toSequence E).gather .front (s.toSequence E).iter w).1.failure with
  | none => exact ⟨gathered.entered, gathered.rooted⟩
  | some e => exact gathered.entered.trans (dropAll_course _)

def drained (elements : List (Except Error Cursor)) : List Cursor := elements.filterMap Except.toOption

/-- Elements that fail are drained over, and own nothing. -/
theorem drain_produced (own : .unit s.unit ∈ held) (sound : s.Sound w.books) (side : Sequence.Side)
    (it : Sequence.Iterator) :
    s.Produced w held (drained ((s.toSequence E).drain side it w).1)
      ((s.toSequence E).drain side it w).2 := by
  unfold Sequence.drain
  generalize it.remaining = fuel
  induction fuel generalizing it w held with
  | zero => exact .nil .refl
  | succ fuel ih =>
    unfold Sequence.drain.go
    cases it.take? side with
    | none => exact .nil .refl
    | some taken =>
      obtain ⟨index, rest⟩ := taken
      rcases (produce_enters (E := E) own sound index).cases with
        ⟨c, middle, ran, entered, rooted⟩ | ⟨e, middle, ran, entered⟩ <;>
        simp only [bind_apply, show (s.toSequence E).produce index w = _ from ran]
      · have still : .unit s.unit ∈ c.owners + held := Multiset.mem_add.mpr (.inr own)
        exact .cons entered rooted (ih still (sound.mono (.course entered)) rest)
      · have later := ih own (sound.mono (.course entered)) rest
        exact ⟨entered.trans later.entered, later.rooted⟩

/-- What was drained is let go of, as far as there are elements. -/
theorem dropDrained_course (elements : List (Except Error Cursor)) :
    Books.Course (w.books, owners (drained elements) + held)
      ((elements.forM (fun element => element.toOption.elim (pure ()) (·.drop E)) w).2.books, held) := by
  induction elements generalizing w with
  | nil => exact dropAll_course (E := E) []
  | cons element rest ih =>
    cases element with
    | error e => exact ih
    | ok c =>
      change Books.Course (_, owners (c :: drained rest) + held) _
      rw [owners_cons, add_left_comm]
      exact c.drop_course.trans ih

/-- However an element is reached, it is a cursor of the unit and generation of its sequence. -/
theorem reach_enters (own : .unit s.unit ∈ held) (sound : s.Sound w.books) (access : Access) :
    Enters (access.reach E s) w held Cursor.owners fun b c => c.Rooted b s.unit s.generation := by
  have within (index : Nat) : Enters (ExceptT.mk ((s.toSequence E).get index)) w held Cursor.owners
      fun b c => c.Rooted b s.unit s.generation := by
    unfold Sequence.get
    split_ifs
    · exact produce_enters own sound index
    · exact .refl
  cases access with
  | get index => exact within index
  | getUnchecked index => exact produce_enters own sound index
  | front => exact within 0
  | back =>
    unfold Access.reach Sequence.back
    cases (s.toSequence E).length with
    | zero => exact .refl
    | succ n => exact within n

end CursorSequence

/-- A second object for the same thing is of the same unit and generation. -/
theorem Object.clone_course {o : Object} {copy : Action σ Object} (copies : o.clone? = some copy)
    (sound : o.Sound w.books) (own : o.owners ⊆ held) :
    Books.Course (w.books, held) ((copy w).2.books, (copy w).1.owners + held) ∧
      ∀ u generation, o.Of w.books u generation → (copy w).1.Of (copy w).2.books u generation := by
  cases o with
  | index i =>
    obtain rfl := Option.some.inj copies
    exact ⟨Index.clone_course (.inl (own (Multiset.mem_singleton_self _))), fun _ _ _ => trivial⟩
  | unit u =>
    obtain rfl := Option.some.inj copies
    have cloned := TranslationUnit.clone_course (w := w) (own (Multiset.mem_singleton_self (Owner.unit u)))
    exact ⟨cloned, fun v generation known => Object.Of.mono (o := .unit u) (.course cloned) known⟩
  | file f =>
    obtain rfl := Option.some.inj copies
    have cloned := TranslationUnit.clone_course (w := w) (own (Multiset.mem_singleton_self (Owner.unit f.unit)))
    exact ⟨cloned, fun v generation file => Object.Of.mono (o := .file f) (.course cloned) file⟩
  | cursor c =>
    obtain rfl := Option.some.inj copies
    obtain ⟨u, generation, rooted⟩ := sound
    have here (v : TranslationUnit) (unit : c.unit = some v) : .unit v ∈ held :=
      own (Cursor.mem_owners_iff.mpr ⟨[], c, v, rfl, unit, rfl⟩)
    exact ⟨(Cursor.clone_course rooted here).1, fun v other rooted => (Cursor.clone_course rooted here).2⟩
  | cursors s => cases copies

end HandleGraph
