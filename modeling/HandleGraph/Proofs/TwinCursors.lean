import HandleGraph.Proofs.Twins

/-! # Cursors of twins

Twin cursors are matched positions of the same generation which remember the same texts and hashes and lead
to twin cursors. Whatever an engine is asked about them comes to the same, and what it answers makes twins
again: links, copies, and the elements of sequences.
-/

namespace HandleGraph

theorem SameResult.imp {ε α β : Type} {R S : α → β → Prop} (implies : ∀ a b, R a b → S a b) {r : Except ε α}
    {r' : Except ε β} (same : SameResult R r r') : SameResult S r r' := by
  cases same with
  | ok matched => exact .ok (implies _ _ matched)
  | error e => exact .error e

/-- What a memo holds besides cursors. -/
def Memo.plain {γ : Type} (m : Memo γ) : Option String × Option String × Option UInt32 :=
  (m.spelling, m.displayName, m.hash)

@[simp] theorem Memo.plain_setLink {γ : Type} (m : Memo γ) (l : Link) (c : γ) : (m.setLink l c).plain = m.plain := by
  cases l <;> rfl

variable {σ : Type}

namespace Pairing

/-- Twin cursors, but for the cursors that they remember. -/
structure Place (P : Pairing σ) (m : Matching) (c c' : Cursor) : Prop where
  inUse : P.inUse
  raw : m.cursor c.raw c'.raw
  unit : c.unit = some P.unit
  unit' : c'.unit = some P.unit'
  generation : c.generation = c'.generation
  plain : c.memo.plain = c'.memo.plain

/-- Twin cursors: matched positions that remember the same. The null cursor is its own twin. -/
inductive Cursors (P : Pairing σ) (m : Matching) : Cursor → Cursor → Prop
  | absent : Cursors P m .null .null
  | position {c c' : Cursor} (place : P.Place m c c')
      (known : ∀ l, (c.memo.link l).isSome = (c'.memo.link l).isSome)
      (links : ∀ l d d', c.memo.link l = some d → c'.memo.link l = some d' → Cursors P m d d') : Cursors P m c c'

variable {P : Pairing σ} {m m' : Matching} {c c' d d' : Cursor}

private theorem Place.mono (place : P.Place m c c') (grown : m.Grows m') : P.Place m' c c' :=
  ⟨place.inUse, grown.cursor place.raw, place.unit, place.unit', place.generation, place.plain⟩

namespace Cursors

/-- Twins stay twins when more handles match. -/
theorem mono (twins : P.Cursors m c c') (grown : m.Grows m') : P.Cursors m' c c' := by
  induction twins with
  | absent => exact .absent
  | position place known _ ih => exact .position (place.mono grown) known ih

theorem raw (twins : P.Cursors m c c') : m.cursor c.raw c'.raw := by
  cases twins with
  | absent => exact m.null_cursor
  | position place => exact place.raw

/-- Both cursors have their unit or neither has one. -/
theorem unit (twins : P.Cursors m c c') :
    c = .null ∧ c' = .null ∨ P.inUse ∧ c.unit = some P.unit ∧ c'.unit = some P.unit' := by
  cases twins with
  | absent => exact .inl ⟨rfl, rfl⟩
  | position place => exact .inr ⟨place.inUse, place.unit, place.unit'⟩

/-- An operation that needs a position has one in both runs or in neither. -/
theorem live (twins : P.Cursors m c c') (operation : String) :
    SameResult (fun u u' => u = P.unit ∧ u' = P.unit' ∧ P.Place m c c') (c.live operation) (c'.live operation) := by
  cases twins with
  | absent => exact .error _
  | position place =>
    unfold Cursor.live
    rw [place.unit, place.unit']
    simp only [m.cursor_null place.raw]
    split_ifs
    · exact .error _
    · exact .ok ⟨rfl, rfl, place⟩

/-- Twins that remember nothing. -/
theorem fresh (inUse : P.inUse) {raw raw' : CursorHandle} (matched : m.cursor raw raw') (generation : UInt64) :
    P.Cursors m ⟨raw, some P.unit, generation, .empty⟩ ⟨raw', some P.unit', generation, .empty⟩ :=
  .position ⟨inUse, matched, rfl, rfl, rfl, rfl⟩ (fun _ => by simp) (by simp)

/-- Twins remember another text or hash. -/
theorem remember (twins : P.Cursors m c c') (here : c.unit.isSome) {memo memo' : Memo Cursor}
    (plain : memo.plain = memo'.plain) (links : ∀ l, memo.link l = c.memo.link l)
    (links' : ∀ l, memo'.link l = c'.memo.link l) : P.Cursors m { c with memo } { c' with memo := memo' } := by
  cases twins with
  | absent => cases here
  | position place known twins =>
    refine .position ⟨place.inUse, place.raw, place.unit, place.unit', place.generation, plain⟩ ?_ ?_
    · simpa only [links, links'] using known
    · simpa only [links, links'] using twins

/-- Twins remember twins behind a link. -/
theorem setLink (twins : P.Cursors m c c') (here : c.unit.isSome) (l : Link) (behind : P.Cursors m d d') :
    P.Cursors m { c with memo := c.memo.setLink l d } { c' with memo := c'.memo.setLink l d' } := by
  cases twins with
  | absent => cases here
  | position place known links =>
    refine .position ⟨place.inUse, place.raw, place.unit, place.unit', place.generation, by simp [place.plain]⟩ ?_ ?_
    · intro other
      simp only [Memo.link_setLink]
      split_ifs
      · rfl
      · exact known other
    · intro other e e' found found'
      simp only [Memo.link_setLink] at found found'
      split_ifs at found found'
      · exact Option.some.inj found ▸ Option.some.inj found' ▸ behind
      · exact links other e e' found found'

/-- Twins own their units equally often. -/
theorem owned (twins : P.Cursors m c c') :
    List.Forall₂ (fun u u' => u = P.unit ∧ u' = P.unit') c.owned c'.owned := by
  induction twins with
  | absent => exact .nil
  | @position c c' place known _ ih =>
    have behind (l : Link) : List.Forall₂ (fun u u' => u = P.unit ∧ u' = P.unit') (Cursor.ownedBy (c.memo.link l))
        (Cursor.ownedBy (c'.memo.link l)) := by
      have known := known l
      cases here : c.memo.link l <;> cases there : c'.memo.link l <;> rw [here, there] at known
      · exact .nil
      · cases known
      · cases known
      · exact ih l _ _ here there
    obtain ⟨raw, unit, generation, memo⟩ := c
    obtain ⟨raw', unit', generation', memo'⟩ := c'
    obtain rfl : unit = some P.unit := place.unit
    obtain rfl : unit' = some P.unit' := place.unit'
    cases memo
    cases memo'
    simp only [Cursor.owned, Cursor.Memo.owned]
    refine List.rel_append (.cons ⟨rfl, rfl⟩ .nil) ?_
    exact List.rel_append (List.rel_append (List.rel_append (List.rel_append (behind .canonical)
      (behind .semanticParent)) (behind .lexicalParent)) (behind .referenced)) (behind .definition)

end Cursors

/-! ### Copies -/

/-- Handles that match make twins. -/
theorem make (inUse : P.inUse) {raw raw' : CursorHandle} (matched : m.cursor raw raw') (generation : UInt64) :
    Twinned m P.Working P.Working P.Cursors (Cursor.make raw P.unit generation : Action σ Cursor)
      (Cursor.make raw' P.unit' generation : Action σ Cursor) := by
  refine (Pairing.clone inUse).bind fun m₁ _ _ grown same => .pure fun m₂ grown' => ?_
  obtain ⟨rfl, rfl⟩ := same
  exact .fresh inUse ((grown.trans grown').cursor matched) generation

theorem Cursors.clone (twins : P.Cursors m c c') :
    Twinned m P.Working P.Working P.Cursors (c.clone : Action σ Cursor) (c'.clone : Action σ Cursor) := by
  cases twins with
  | absent => exact .pure fun _ _ => .absent
  | position place =>
    unfold Cursor.clone
    rw [place.unit, place.unit', place.generation]
    exact make place.inUse place.raw _

theorem Cursors.drop {E : Engine σ} (twins : P.Cursors m c c') :
    Twinned m P.Joined P.Joined (fun _ _ _ => True) (c.drop E) (c'.drop E) :=
  .forM twins.owned fun _ _ same => by
    obtain ⟨rfl, rfl⟩ := same
    exact Pairing.drop

/-- Twins look the same in worlds in which the unit is as it was. -/
theorem Cursors.isStale (twins : P.Cursors m c c') {w v : World σ} (working : P.Working m w v) :
    c.isStale w = c'.isStale v := by
  cases twins with
  | absent => rfl
  | position place =>
    unfold Cursor.isStale
    rw [place.unit, place.unit', Option.any_some, Option.any_some, (working.fact place.inUse).generation,
      place.generation]

end Pairing

/-! ## What twins are asked -/

namespace Isolated

variable {P : Pairing σ} {m : Matching} {c c' d d' : Cursor} {E : Engine σ} {elsewhere : CString → Prop}
  (isolated : Isolated E elsewhere P.same)
include isolated

theorem queryText (t : CursorText) (twins : P.Cursors m c c') :
    Twinned m P.Working P.Working (fun _ => SameResult Eq) (c.queryText E t).run (c'.queryText E t).run :=
  .settled (twins.live _) fun _ _ live =>
    Pairing.needText (isolated.copy live.2.2.inUse (.cursor t live.2.2.raw)) _

theorem queryOptionalText (t : CursorText) (twins : P.Cursors m c c') :
    Twinned m P.Working P.Working (fun _ => SameResult Eq) (c.queryOptionalText E t).run
      (c'.queryOptionalText E t).run :=
  .settled (twins.live _) fun _ _ live => .perform (isolated.copy live.2.2.inUse (.cursor t live.2.2.raw))

theorem queryLink (l : Link) (twins : P.Cursors m c c') :
    Twinned m P.Working P.Working (fun m => SameResult (P.Cursors m)) (c.queryLink E l).run
      (c'.queryLink E l).run := by
  refine .settled (twins.live _) fun u u' live => ?_
  obtain ⟨rfl, rfl, place⟩ := live
  refine (Twinned.perform (isolated.ask place.inUse (.link l place.raw))).next fun m₁ raw raw' _ matched => ?_
  rw [m₁.cursor_null matched, place.generation]
  split_ifs
  · exact Pairing.tell _ _ (.ok fun _ _ => .absent)
  · exact .throw _
  · exact Pairing.tell _ _ (.perform (Pairing.make place.inUse matched _))

/-- Twins are compared by handles that match, in units that match. -/
theorem equal (first : P.Cursors m c c') (second : P.Cursors m d d') :
    Twinned m P.Working P.Working (fun _ => Eq) (c.equal E d) (c'.equal E d') := by
  have asks : m.Asks (.equalCursors c.raw d.raw) (.equalCursors c'.raw d'.raw) fun _ => Eq :=
    .equalCursors first.raw second.raw
  unfold Cursor.equal
  rcases first.unit with ⟨rfl, rfl⟩ | ⟨inUse, unit, unit'⟩
  · rcases second.unit with ⟨rfl, rfl⟩ | ⟨inUse, unit, unit'⟩
    · exact .pure fun _ _ => rfl
    · rw [unit, unit']
      exact isolated.ask inUse asks
  · rw [unit, unit']
    exact isolated.ask inUse asks

end Isolated

/-! ## Sequences -/

/-- Elements that come from matched cursors. -/
inductive Matching.Sources (m : Matching) : CursorSource → CursorSource → Prop
  | children {raws raws' : List CursorHandle} (all : List.Forall₂ m.cursor raws raws') :
      Sources m (.children raws) (.children raws')
  | arguments {parent parent' : CursorHandle} (matched : m.cursor parent parent') (count : Nat) :
      Sources m (.arguments parent count) (.arguments parent' count)

private theorem Matching.Sources.mono {m m' : Matching} (grown : m.Grows m') {source source' : CursorSource}
    (matched : m.Sources source source') : m'.Sources source source' := by
  cases matched with
  | children all => exact .children (all.imp fun _ _ => grown.cursor)
  | arguments matched count => exact .arguments (grown.cursor matched) count

/-- Twin sequences: of the same generation, with elements from matched cursors. -/
structure Pairing.Sequences (P : Pairing σ) (m : Matching) (s s' : CursorSequence) : Prop where
  inUse : P.inUse
  unit : s.unit = P.unit
  unit' : s'.unit = P.unit'
  generation : s.generation = s'.generation
  source : m.Sources s.source s'.source

namespace Pairing.Sequences

variable {P : Pairing σ} {m m' : Matching} {s s' : CursorSequence}

theorem mono (twins : P.Sequences m s s') (grown : m.Grows m') : P.Sequences m' s s' :=
  ⟨twins.inUse, twins.unit, twins.unit', twins.generation, twins.source.mono grown⟩

theorem length (twins : P.Sequences m s s') : s.length = s'.length := by
  have source := twins.source
  unfold CursorSequence.length
  revert source
  generalize s.source = source
  generalize s'.source = source'
  rintro (⟨all⟩ | ⟨_, _⟩)
  · exact all.length_eq
  · rfl

end Pairing.Sequences

private theorem forall₂_getElem? {α β : Type} {R : α → β → Prop} {list : List α} {list' : List β}
    (all : List.Forall₂ R list list') (k : Nat) : Option.Rel R list[k]? list'[k]? := by
  induction all generalizing k with
  | nil => exact .none
  | cons first _ ih =>
    cases k with
    | zero => exact .some first
    | succ k => simpa using ih k

namespace Isolated

variable {P : Pairing σ} {m : Matching} {E : Engine σ} {elsewhere : CString → Prop} {s s' : CursorSequence}
  (isolated : Isolated E elsewhere P.same)
include isolated

private theorem produce (twins : P.Sequences m s s') (index : Nat) :
    Twinned m P.Working P.Working (fun m => SameResult (P.Cursors m)) (s.produce E index).run
      (s'.produce E index).run := by
  have source := twins.source
  unfold CursorSequence.produce
  rw [twins.unit, twins.unit', twins.generation]
  revert source
  generalize s.source = source
  generalize s'.source = source'
  intro matched
  cases matched with
  | @children raws raws' all =>
    dsimp only
    rw [all.length_eq]
    have both := forall₂_getElem? all index
    generalize raws[index]? = found at both ⊢
    generalize raws'[index]? = found' at both ⊢
    cases both with
    | none => exact .throw _
    | some matched => exact .perform (Pairing.make twins.inUse matched _)
  | arguments matched count =>
    dsimp only
    split_ifs
    · exact .throw _
    · refine (Twinned.perform (isolated.ask twins.inUse (.argument matched _))).next fun m₁ raw raw' _ matched => ?_
      rw [m₁.cursor_null matched]
      split_ifs
      · exact .throw _
      · exact .perform (Pairing.make twins.inUse matched _)

private theorem get_element (twins : P.Sequences m s s') (index : Nat) :
    Twinned m P.Working P.Working (fun m => SameResult (P.Cursors m)) ((s.toSequence E).get index)
      ((s'.toSequence E).get index) := by
  unfold Sequence.get
  change Twinned m _ _ _
    (if index < s.length then _ else Pure.pure (Except.error (Error.indexOutOfRange index s.length)))
    (if index < s'.length then _ else Pure.pure (Except.error (Error.indexOutOfRange index s'.length)))
  rw [twins.length]
  split_ifs
  · exact isolated.produce twins index
  · exact .pure fun _ _ => .error _

/-- Each way to an element comes to twins or to the same failure. -/
theorem reach (twins : P.Sequences m s s') (element : Access) :
    Twinned m P.Working P.Working (fun m => SameResult (P.Cursors m)) (element.reach E s).run
      (element.reach E s').run := by
  cases element with
  | get index => exact isolated.get_element twins index
  | getUnchecked index => exact isolated.produce twins index
  | front => exact isolated.get_element twins 0
  | back =>
    change Twinned m _ _ _ ((s.toSequence E).back) ((s'.toSequence E).back)
    have size (s : CursorSequence) : (s.toSequence E).length = s.length := rfl
    unfold Sequence.back
    rw [size, size, twins.length]
    cases s'.length with
    | zero => exact .pure fun _ _ => .error _
    | succ n => exact isolated.get_element twins n

/-- One side is drained like the other, by induction on the fuel. -/
theorem drain_go (side : Sequence.Side) (fuel : Nat) (it : Sequence.Iterator) (twins : P.Sequences m s s') :
    Twinned m P.Working P.Working (fun m => List.Forall₂ (SameResult (P.Cursors m)))
      (Sequence.drain.go (s.toSequence E) side fuel it) (Sequence.drain.go (s'.toSequence E) side fuel it) := by
  induction fuel generalizing m it with
  | zero => exact .pure fun _ _ => .nil
  | succ fuel ih =>
    unfold Sequence.drain.go
    cases it.take? side with
    | none => exact .pure fun _ _ => .nil
    | some taken =>
      refine (isolated.produce twins taken.1).bind fun m₁ element element' grown same => ?_
      refine (ih taken.2 (twins.mono grown)).bind fun m₂ rest rest' grown' all => .pure fun m₃ grown'' => ?_
      refine .cons (same.imp fun _ _ twins => twins.mono (grown'.trans grown'')) ?_
      exact all.imp fun _ _ same => same.imp fun _ _ twins => twins.mono grown''

/-- Everything up to the first failure. -/
theorem gather_go (side : Sequence.Side) (fuel : Nat) (it : Sequence.Iterator) (twins : P.Sequences m s s') :
    Twinned m P.Working P.Working
      (fun m g g' => List.Forall₂ (P.Cursors m) g.elements g'.elements ∧ g.failure = g'.failure)
      (Sequence.gather.go (s.toSequence E) side fuel it) (Sequence.gather.go (s'.toSequence E) side fuel it) := by
  induction fuel generalizing m it with
  | zero => exact .pure fun _ _ => ⟨.nil, rfl⟩
  | succ fuel ih =>
    unfold Sequence.gather.go
    cases it.take? side with
    | none => exact .pure fun _ _ => ⟨.nil, rfl⟩
    | some taken =>
      refine (isolated.produce twins taken.1).bind fun m₁ element element' grown same => ?_
      cases same with
      | error e => exact .pure fun _ _ => ⟨.nil, rfl⟩
      | ok first =>
        refine (ih taken.2 (twins.mono grown)).bind fun m₂ rest rest' grown' all => .pure fun m₃ grown'' => ?_
        exact ⟨.cons (first.mono (grown'.trans grown'')) (all.1.imp fun _ _ twins => twins.mono grown''), all.2⟩

end Isolated

end HandleGraph
