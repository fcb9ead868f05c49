import HandleGraph.Proofs.Isolation
import HandleGraph.Proofs.ShadowDisposal

/-! # Two runs of one unit

Work in one run and its twin in another, on the same unit under other handles. Twins come to results that
match, and whatever they learn of further handles goes into the matching. So a judgement about twins holds
from some matching on: it may be used under every matching that has grown from there, and its conclusion is
about one that has grown further.

While a unit is in use the two worlds say the same of it. How the rest of either world looks is left open.
-/

namespace HandleGraph

/-- Results that match, or the same failure. -/
inductive SameResult {ε α β : Type} (good : α → β → Prop) : Except ε α → Except ε β → Prop
  | ok {a : α} {b : β} (matched : good a b) : SameResult good (.ok a) (.ok b)
  | error (e : ε) : SameResult good (.error e) (.error e)

/-- Work in one run and its twin in the other, under every matching that has grown from `m`. -/
structure Twinned {S T α β : Type} (m : Matching) (pre post : Matching → S → T → Prop)
    (good : Matching → α → β → Prop) (work : StateM S α) (other : StateM T β) : Prop where
  together : ∀ {m₁ : Matching} {s : S} {t : T}, m.Grows m₁ → pre m₁ s t → ∃ m₂, m₁.Grows m₂ ∧
    post m₂ (work s).2 (other t).2 ∧ good m₂ (work s).1 (other t).1

namespace Twinned

variable {S T ε α β α' β' : Type} {m : Matching} {pre mid post : Matching → S → T → Prop}
  {good : Matching → α → β → Prop} {good' : Matching → α' → β' → Prop}

theorem pure {a : α} {b : β} (matched : ∀ m₁, m.Grows m₁ → good m₁ a b) :
    Twinned m pre pre good (pure a : StateM S α) (pure b : StateM T β) :=
  ⟨fun {m₁ _ _} grown here => ⟨m₁, .refl m₁, here, matched m₁ grown⟩⟩

/-- The second part may use all that the first has matched. -/
theorem bind {work : StateM S α} {other : StateM T β} {next : α → StateM S α'} {next' : β → StateM T β'}
    (first : Twinned m pre mid good work other)
    (goesOn : ∀ m₁ a b, m.Grows m₁ → good m₁ a b → Twinned m₁ mid post good' (next a) (next' b)) :
    Twinned m pre post good' (work >>= next) (other >>= next') := by
  refine ⟨fun grown here => ?_⟩
  obtain ⟨m₂, grown', middle, matched⟩ := first.together grown here
  obtain ⟨m₃, grown'', there, result⟩ := (goesOn m₂ _ _ (grown.trans grown') matched).together (.refl m₂) middle
  exact ⟨m₃, grown'.trans grown'', there, result⟩

/-- A judgement goes on holding as the matching grows. -/
theorem later {m₁ : Matching} {work : StateM S α} {other : StateM T β} (twins : Twinned m pre post good work other)
    (grown : m.Grows m₁) : Twinned m₁ pre post good work other :=
  ⟨fun grown' here => twins.together (grown.trans grown') here⟩

/-- Twins from one kind of states to another are twins between kinds that imply them. -/
theorem states {pre' post' : Matching → S → T → Prop} {work : StateM S α} {other : StateM T β}
    (twins : Twinned m pre post good work other) (before : ∀ {m s t}, pre' m s t → pre m s t)
    (after : ∀ {m s t}, post m s t → post' m s t) : Twinned m pre' post' good work other := by
  refine ⟨fun grown here => ?_⟩
  obtain ⟨m₂, grown', there, matched⟩ := twins.together grown (before here)
  exact ⟨m₂, grown', after there, matched⟩

theorem map {f : α → α'} {f' : β → β'} {work : StateM S α} {other : StateM T β}
    (twins : Twinned m pre post good work other)
    (implies : ∀ m₁ a b, m.Grows m₁ → good m₁ a b → good' m₁ (f a) (f' b)) :
    Twinned m pre post good' (f <$> work) (f' <$> other) := by
  refine ⟨fun grown here => ?_⟩
  obtain ⟨m₂, grown', there, matched⟩ := twins.together grown here
  exact ⟨m₂, grown', there, implies m₂ _ _ (grown.trans grown') matched⟩

/-- The states may be looked at. -/
theorem get {next : S → StateM S α} {next' : T → StateM T β}
    (goesOn : ∀ m₁ s t, m.Grows m₁ → pre m₁ s t → Twinned m₁ pre post good (next s) (next' t)) :
    Twinned m pre post good (MonadState.get >>= next) (MonadState.get >>= next') :=
  ⟨fun {m₁ s t} grown here => (goesOn m₁ s t grown here).together (.refl m₁) here⟩

/-! ## Work that can fail -/

theorem ok {a : α} {b : β} (matched : ∀ m₁, m.Grows m₁ → good m₁ a b) :
    Twinned m pre pre (fun m => SameResult (good m)) (Pure.pure a : ExceptT ε (StateM S) α).run
      (Pure.pure b : ExceptT ε (StateM T) β).run :=
  ⟨fun {m₁ _ _} grown here => ⟨m₁, .refl m₁, here, .ok (matched m₁ grown)⟩⟩

theorem throw (e : ε) :
    Twinned m pre pre (fun m => SameResult (good m)) (MonadExcept.throw e : ExceptT ε (StateM S) α).run
      (MonadExcept.throw e : ExceptT ε (StateM T) β).run :=
  ⟨fun {m₁ _ _} _ here => ⟨m₁, .refl m₁, here, .error e⟩⟩

/-- Like `bind`, for work that may fail, where both fail with the same error. -/
theorem next {work : ExceptT ε (StateM S) α} {other : ExceptT ε (StateM T) β}
    {next : α → ExceptT ε (StateM S) α'} {next' : β → ExceptT ε (StateM T) β'}
    (first : Twinned m pre pre (fun m => SameResult (good m)) work.run other.run)
    (goesOn : ∀ m₁ a b, m.Grows m₁ → good m₁ a b →
      Twinned m₁ pre pre (fun m => SameResult (good' m)) (next a).run (next' b).run) :
    Twinned m pre pre (fun m => SameResult (good' m)) (work >>= next).run (other >>= next').run := by
  rw [ExceptT.run_bind, ExceptT.run_bind]
  refine first.bind fun m₁ result result' grown matched => ?_
  cases matched with
  | error e => exact pure fun _ _ => .error e
  | ok matched => exact goesOn m₁ _ _ grown matched

theorem perform {σ τ : Type} {pre post : Matching → World σ → World τ → Prop} {work : Action σ α} {other : Action τ β}
    (twins : Twinned m pre post good work other) :
    Twinned m pre post (fun m => SameResult (good m)) (HandleGraph.perform work : ExceptT ε (StateM (World σ)) α).run
      (HandleGraph.perform other : ExceptT ε (StateM (World τ)) β).run :=
  twins.map fun _ _ _ _ matched => .ok matched

theorem settled {σ ε' : Type} {pre : Matching → World σ → World σ → Prop} {R : ε → ε' → Prop}
    {result : Except Error ε} {result' : Except Error ε'} {next : ε → Attempt σ α} {next' : ε' → Attempt σ β}
    (same : SameResult R result result')
    (goesOn : ∀ a b, R a b → Twinned m pre pre (fun m => SameResult (good m)) (next a).run (next' b).run) :
    Twinned m pre pre (fun m => SameResult (good m)) (HandleGraph.settle result >>= next).run
      (HandleGraph.settle result' >>= next').run := by
  cases same with
  | error e => exact throw e
  | ok matched => exact goesOn _ _ matched

private theorem settle {σ : Type} {pre : Matching → World σ → World σ → Prop} {result : Except Error ε}
    {next : ε → Attempt σ α} {next' : ε → Attempt σ β}
    (goesOn : ∀ a, Twinned m pre pre (fun m => SameResult (good m)) (next a).run (next' a).run) :
    Twinned m pre pre (fun m => SameResult (good m)) (HandleGraph.settle result >>= next).run
      (HandleGraph.settle result >>= next').run := by
  cases result with
  | error e => exact throw e
  | ok a => exact goesOn a

/-- Reading the states in work that can fail. -/
theorem read {next : S → ExceptT ε (StateM S) α} {next' : T → ExceptT ε (StateM T) β}
    (goesOn : ∀ m₁ s t, m.Grows m₁ → pre m₁ s t →
      Twinned m₁ pre post (fun m => SameResult (good m)) (next s).run (next' t).run) :
    Twinned m pre post (fun m => SameResult (good m)) (MonadState.get >>= next).run (MonadState.get >>= next').run :=
  show Twinned m pre post _ (MonadState.get >>= fun s => (next s).run) (MonadState.get >>= fun t => (next' t).run)
    from get goesOn

/-- Work on every element of lists whose elements match. -/
theorem forM {ι ι' : Type} {work : ι → StateM S PUnit} {other : ι' → StateM T PUnit} {R : ι → ι' → Prop}
    {list : List ι} {list' : List ι'} (all : List.Forall₂ R list list')
    (each : ∀ i j, R i j → Twinned m pre pre (fun _ _ _ => True) (work i) (other j)) :
    Twinned m pre pre (fun _ _ _ => True) (list.forM work) (list'.forM other) := by
  induction all with
  | nil => exact pure fun _ _ => trivial
  | cons first _ ih => exact (each _ _ first).bind fun m₁ _ _ grown _ => ih.later grown

end Twinned

/-! ## Worlds -/

/-- What stays the same while two runs are compared: which unit it is in either, the calls made before, and
whether the unit is in use at all. -/
structure Pairing (σ : Type) where
  same : Matching → σ → σ → Prop
  unit : TranslationUnit
  unit' : TranslationUnit
  before : List Call
  before' : List Call
  inUse : Prop

/-- Whether a call disposes an index. When this happens depends on the other units of the index. -/
def Call.disposesIndex : Call → Bool
  | .asked (.disposeIndex _) _ => true
  | _ => false

/-- Calls that match one by one, but for those that dispose an index. -/
def Matching.SameCalls (m : Matching) (calls calls' : List Call) : Prop :=
  List.Forall₂ m.Calls (calls.filter (!·.disposesIndex)) (calls'.filter (!·.disposesIndex))

theorem Matching.SameCalls.mono {m m' : Matching} (grown : m.Grows m') {calls calls' : List Call}
    (same : m.SameCalls calls calls') : m'.SameCalls calls calls' := same.imp fun _ _ => .mono grown

private theorem Matching.SameCalls.append {m : Matching} {calls calls' more more' : List Call}
    (same : m.SameCalls calls calls') (later : m.SameCalls more more') :
    m.SameCalls (calls ++ more) (calls' ++ more') := by
  unfold Matching.SameCalls at *
  rw [List.filter_append, List.filter_append]
  exact List.rel_append same later

private theorem Matching.Calls.disposesIndex {m : Matching} {call call' : Call} (matched : m.Calls call call') :
    call.disposesIndex = false ∧ call'.disposesIndex = false := by
  cases matched with
  | asked asks => cases asks <;> exact ⟨rfl, rfl⟩
  | copied copies => cases copies <;> exact ⟨rfl, rfl⟩
  | _ => exact ⟨rfl, rfl⟩

private theorem Matching.Calls.same {m : Matching} {call call' : Call} (matched : m.Calls call call') :
    m.SameCalls [call] [call'] := by
  obtain ⟨here, there⟩ := matched.disposesIndex
  simpa [Matching.SameCalls, here, there] using matched

/-! ### Cells of units -/

namespace World

variable {σ : Type} (w : World σ)

/-- What a change of cells leaves as it is can be read off as before. -/
private theorem read_modify {β : Type} {change : UnitCell → UnitCell} {g : UnitCell → β}
    (same : ∀ cell, g (change cell) = g cell) (absent : β) (k j : Nat) :
    ((w.units.modify k change)[j]?).elim absent g = (w.units[j]?).elim absent g := by
  rw [List.getElem?_modify]
  cases w.units[j]? with
  | none => rfl
  | some cell => by_cases here : k = j <;> simp [here, same]

@[simp] theorem unit_index_countUnit (u v : TranslationUnit) (f : Nat → Nat) :
    v.index (w.countUnit u f) = v.index w := w.read_modify (by intro cell; rfl) _ _ _

@[simp] theorem unit_raw_renew (u v : TranslationUnit) : v.raw (w.renew u) = v.raw w :=
  w.read_modify (by intro cell; rfl) _ _ _

@[simp] theorem unit_index_renew (u v : TranslationUnit) : v.index (w.renew u) = v.index w :=
  w.read_modify (by intro cell; rfl) _ _ _

/-- An owner fewer, where none is less than none. -/
theorem owners_uncount (u : TranslationUnit) : u.owners (w.countUnit u (· - 1)) = u.owners w - 1 := by
  simp only [TranslationUnit.owners, countUnit, List.getElem?_modify]
  cases w.units[u.cell]? <;> simp

theorem known_of_unit_owned {u : TranslationUnit} (owned : 0 < u.owners w) : u.cell < w.units.length := by
  obtain ⟨cell, present, -⟩ := w.exists_unit_cell_of_owned owned
  exact (List.getElem?_eq_some_iff.mp present).1

end World

namespace Pairing

variable {σ : Type} (P : Pairing σ)

/-- What two worlds have in common of a unit in use. -/
structure Facts (m : Matching) (w v : World σ) : Prop where
  raw : P.unit.raw w = m.unit
  raw' : P.unit'.raw v = m.unit'
  index : (P.unit.index w).raw w = m.index
  index' : (P.unit'.index v).raw v = m.index'
  indexOwned : 0 < (P.unit.index w).owners w
  indexOwned' : 0 < (P.unit'.index v).owners v
  generation : P.unit.generation w = P.unit'.generation v
  engines : P.same m w.engine v.engine

/-- Worlds in which the unit has as many owners, and all else is the same of it as long as it has any. -/
structure Joined (m : Matching) (w v : World σ) : Prop where
  owners : P.unit.owners w = P.unit'.owners v
  facts : 0 < P.unit.owners w → P.Facts m w v
  calls : ∃ new new', w.calls = P.before ++ new ∧ v.calls = P.before' ++ new' ∧ m.SameCalls new new'

/-- Worlds in which the unit is still in use if it was so at first. -/
structure Working (m : Matching) (w v : World σ) : Prop extends P.Joined m w v where
  owned : P.inUse → 0 < P.unit.owners w

variable {P} {m m' : Matching} {w v : World σ}

theorem Working.fact (working : P.Working m w v) (inUse : P.inUse) : P.Facts m w v :=
  working.facts (working.owned inUse)

/-- Both runs have made the same calls, and the engines go on knowing the same of the unit. -/
theorem Working.call (working : P.Working m w v) (grown : m.Grows m') {e e' : σ} (same : P.same m' e e')
    {more more' : List Call} (calls : m'.SameCalls more more') :
    P.Working m' { w with engine := e, calls := w.calls ++ more }
      { v with engine := e', calls := v.calls ++ more' } where
  owners := working.owners
  facts owned :=
    have facts := working.facts owned
    ⟨facts.raw.trans grown.unit, facts.raw'.trans grown.unit', facts.index.trans grown.index,
      facts.index'.trans grown.index', facts.indexOwned, facts.indexOwned', facts.generation, same⟩
  calls := by
    obtain ⟨new, new', made, made', all⟩ := working.calls
    refine ⟨new ++ more, new' ++ more', ?_, ?_, (all.mono grown).append calls⟩
    · rw [← List.append_assoc, ← made]
    · rw [← List.append_assoc, ← made']
  owned := working.owned

/-- Nothing but the number of the unit's owners changes in a cell. -/
theorem Facts.countUnit (facts : P.Facts m w v) (f : Nat → Nat) :
    P.Facts m (w.countUnit P.unit f) (v.countUnit P.unit' f) where
  raw := (w.unit_raw_countUnit _ _ _).trans facts.raw
  raw' := (v.unit_raw_countUnit _ _ _).trans facts.raw'
  index := by rw [World.unit_index_countUnit]; exact facts.index
  index' := by rw [World.unit_index_countUnit]; exact facts.index'
  indexOwned := by rw [World.unit_index_countUnit]; exact facts.indexOwned
  indexOwned' := by rw [World.unit_index_countUnit]; exact facts.indexOwned'
  generation := by rw [World.generation_countUnit, World.generation_countUnit, facts.generation]
  engines := facts.engines

end Pairing

/-! ## Operations on the world -/

section Operations

variable {σ : Type} {P : Pairing σ} {m : Matching} {E : Engine σ} {elsewhere : CString → Prop}

/-- Questions that match are answered alike while the unit is in use. -/
theorem Isolated.ask (isolated : Isolated E elsewhere P.same) (inUse : P.inUse) {q q' : Query}
    {good : Matching → q.Answer → q'.Answer → Prop} (asks : m.Asks q q' good) :
    Twinned m P.Working P.Working good (HandleGraph.ask E q) (HandleGraph.ask E q') := by
  refine ⟨fun {m₁ w v} grown working => ?_⟩
  have asks' := asks.mono grown
  obtain ⟨m₂, grown', same, answers⟩ := isolated.answers (working.fact inUse).engines asks'
  exact ⟨m₂, grown', working.call grown' same (Matching.Calls.asked (asks'.mono grown') answers).same, answers⟩

/-- Strings from which the same text is read are taken alike. -/
private theorem take_working (isolated : Isolated E elsewhere P.same) (inUse : P.inUse) {w v : World σ}
    (working : P.Working m w v) {s s' : StringHandle} (null : s.isNull = s'.isNull)
    (text : (E.answer (.readString s) w.engine).1 = (E.answer (.readString s') v.engine).1) :
    P.Working m (takeOptionalString E s w).2 (takeOptionalString E s' v).2 ∧
      (takeOptionalString E s w).1 = (takeOptionalString E s' v).1 := by
  unfold takeOptionalString
  rw [← null]
  by_cases absent : s.isNull = true
  · rw [if_pos absent, if_pos absent]
    exact ⟨working, rfl⟩
  · rw [if_neg absent, if_neg absent]
    have matched : m.Calls _ _ := .read s s' (E.answer (.readString s) w.engine).1
    rw [show Call.asked (.readString s') (E.answer (.readString s) w.engine).1 =
      .asked (.readString s') (E.answer (.readString s') v.engine).1 from congrArg _ text] at matched
    have alike := isolated.strings (working.fact inUse).engines s s'
    have read := working.call (.refl m) alike.1 matched.same
    exact ⟨read.call (.refl m) (isolated.strings alike.1 s s').2 (Matching.Calls.givenBack s s').same, text⟩

/-- A text is asked for, read and given back alike. -/
theorem Isolated.copy (isolated : Isolated E elsewhere P.same) (inUse : P.inUse) {source source' : TextSource}
    (copies : m.Copies source source') :
    Twinned m P.Working P.Working (fun _ => Eq) (source.copy E) (source'.copy E) := by
  have copied (source : TextSource) (w : World σ) : source.copy E w = takeOptionalString E (source.handOut E w.engine).1
      ⟨(source.handOut E w.engine).2, w.indexes, w.units,
        w.calls ++ [source.call (source.handOut E w.engine).1], w.events⟩ := by
    cases source <;> rfl
  refine ⟨fun {m₁ w v} grown working => ?_⟩
  have copies' := copies.mono grown
  obtain ⟨m₂, grown', same, null, text⟩ := isolated.texts (working.fact inUse).engines copies'
  have asked := working.call grown' same (Matching.Calls.copied (copies'.mono grown') null).same
  rw [copied, copied]
  exact ⟨m₂, grown', take_working isolated inUse asked null text⟩

/-- Children that match are seen alike by a visitor that stops at the first null one. -/
private theorem offered_walks {m : Matching} {offered offered' : List CursorHandle}
    (all : List.Forall₂ m.cursor offered offered') :
    List.Forall₂ m.cursor (Cursor.untilNull.walk offered).shown (Cursor.untilNull.walk offered').shown ∧
      (Cursor.untilNull.walk offered).stopped = (Cursor.untilNull.walk offered').stopped := by
  induction all with
  | nil => exact ⟨.nil, rfl⟩
  | @cons c c' _ _ matched _ ih =>
    have null := m.cursor_null matched
    unfold Visitor.walk
    by_cases absent : c.isNull = true
    · simp only [Cursor.untilNull, ← null, absent, ↓reduceIte]
      exact ⟨.cons matched .nil, trivial⟩
    · simp only [Cursor.untilNull, ← null, absent, Bool.false_eq_true, ↓reduceIte]
      exact ⟨.cons matched ih.1, ih.2⟩

/-- Children are shown one for one. -/
theorem Isolated.walk (isolated : Isolated E elsewhere P.same) (inUse : P.inUse) {c c' : CursorHandle}
    (matched : m.cursor c c') :
    Twinned m P.Working P.Working
      (fun m walk walk' => List.Forall₂ m.cursor walk.shown walk'.shown ∧ walk.stopped = walk'.stopped)
      (walkChildren E c Cursor.untilNull) (walkChildren E c' Cursor.untilNull) := by
  refine ⟨fun {m₁ w v} grown working => ?_⟩
  obtain ⟨m₂, grown', same, offered⟩ := isolated.children (working.fact inUse).engines (grown.cursor matched)
  have walks : List.Forall₂ m₂.cursor (Cursor.untilNull.walk (E.children c Cursor.untilNull w.engine).1).shown
      (Cursor.untilNull.walk (E.children c' Cursor.untilNull v.engine).1).shown ∧
      (Cursor.untilNull.walk (E.children c Cursor.untilNull w.engine).1).stopped =
        (Cursor.untilNull.walk (E.children c' Cursor.untilNull v.engine).1).stopped := offered_walks offered
  exact ⟨m₂, grown', working.call grown' same
    (Matching.Calls.walked ((grown.trans grown').cursor matched) walks.1 walks.2).same, walks⟩

/-- What is reported makes no difference. -/
theorem Pairing.report (e e' : Event) :
    Twinned m P.Working P.Working (fun _ _ _ => True) (HandleGraph.report e : Action σ Unit)
      (HandleGraph.report e' : Action σ Unit) :=
  ⟨fun {m₁ _ _} _ working => ⟨m₁, .refl m₁, ⟨⟨working.owners, fun owned =>
    have ⟨a, b, c, d, e, f, g, h⟩ := working.facts owned
    ⟨a, b, c, d, e, f, g, h⟩, working.calls⟩, working.owned⟩, trivial⟩⟩

theorem Pairing.clone (inUse : P.inUse) :
    Twinned m P.Working P.Working (fun _ u u' => u = P.unit ∧ u' = P.unit') (P.unit.clone : Action σ TranslationUnit)
      (P.unit'.clone : Action σ TranslationUnit) := by
  refine ⟨fun {m₁ w v} _ working => ⟨m₁, .refl m₁, ?_, rfl, rfl⟩⟩
  have owned := working.owned inUse
  have counted : P.unit.owners (w.countUnit P.unit (· + 1)) = P.unit.owners w + 1 := by
    rw [World.unit_owners_countUnit w owned, if_pos rfl]
  have counted' : P.unit'.owners (v.countUnit P.unit' (· + 1)) = P.unit'.owners v + 1 := by
    rw [World.unit_owners_countUnit v (working.owners ▸ owned), if_pos rfl]
  change P.Working m₁ (w.countUnit P.unit (· + 1)) (v.countUnit P.unit' (· + 1))
  refine ⟨⟨?_, fun _ => (working.fact inUse).countUnit _, working.calls⟩, fun _ => ?_⟩
  · rw [counted, counted', working.owners]
  · omega

/-- The last owner disposes the unit, and then it may dispose the index. -/
private theorem drop_calls (E : Engine σ) {u : TranslationUnit} {w : World σ} (last : u.owners w = 1) :
    ∃ closed, (∀ call ∈ closed, call.disposesIndex = true) ∧
      (u.drop E w).2.calls = w.calls ++ .asked (.disposeUnit (u.raw w)) () :: closed ∧
      (u.drop E w).2.units = (w.countUnit u (· - 1)).units := by
  rw [TranslationUnit.drop_last last]
  generalize disposed : (HandleGraph.ask E (.disposeUnit (u.raw w)) _).2 = middle
  have books := Index.books_drop (E := E) (w := middle) (u.index w)
  have calls := congrArg (fun b : Books => b.calls) books
  have units := congrArg (fun b : Books => b.units) books
  have sofar : middle.calls = w.calls ++ [.asked (.disposeUnit (u.raw w)) ()] := by rw [← disposed]; rfl
  have cells : middle.units = (w.countUnit u (· - 1)).units := by rw [← disposed]; rfl
  simp only [World.books_calls, World.books_units] at calls units
  rw [calls, units]
  split_ifs
  · refine ⟨[.asked (.disposeIndex ((u.index w).raw middle)) ()], by simp [Call.disposesIndex], ?_, cells⟩
    change middle.calls ++ _ = _
    rw [sofar, List.append_assoc]
    rfl
  · exact ⟨[], by simp, sofar, cells⟩

/-- The last owner lets go of the unit in both runs or in neither. -/
theorem Pairing.drop :
    Twinned m P.Joined P.Joined (fun _ _ _ => True) (P.unit.drop E) (P.unit'.drop E) := by
  refine ⟨fun {m₁ w v} _ joined => ⟨m₁, .refl m₁, ?_, trivial⟩⟩
  have owners := w.owners_uncount P.unit
  have owners' := v.owners_uncount P.unit'
  have same := joined.owners
  by_cases last : P.unit.owners w = 1
  · have last' : P.unit'.owners v = 1 := same ▸ last
    have facts := joined.facts (by omega)
    obtain ⟨new, new', made, made', all⟩ := joined.calls
    obtain ⟨closed, indexes, calls, units⟩ := drop_calls E last
    obtain ⟨closed', indexes', calls', units'⟩ := drop_calls E last'
    have none : P.unit.owners (P.unit.drop E w).2 = 0 := by
      rw [TranslationUnit.owners, units]
      exact owners.trans (by rw [last])
    have none' : P.unit'.owners (P.unit'.drop E v).2 = 0 := by
      rw [TranslationUnit.owners, units']
      exact owners'.trans (by rw [last'])
    have disposed : m₁.SameCalls (.asked (.disposeUnit (P.unit.raw w)) () :: closed)
        (.asked (.disposeUnit (P.unit'.raw v)) () :: closed') := by
      have left {closed : List Call} (indexes : ∀ call ∈ closed, call.disposesIndex = true) :
          closed.filter (!·.disposesIndex) = [] :=
        List.filter_eq_nil_iff.mpr fun call member => by simp [indexes call member]
      have both : m₁.SameCalls [_] [_] := Matching.Calls.disposed.same
      rw [facts.raw, facts.raw', ← List.singleton_append, ← List.singleton_append]
      refine both.append ?_
      rw [Matching.SameCalls, left indexes, left indexes']
      exact .nil
    refine ⟨none.trans none'.symm, fun owned => absurd owned (by omega), _, _, ?_, ?_, all.append disposed⟩
    · rw [calls, made, List.append_assoc]
    · rw [calls', made', List.append_assoc]
  · rw [TranslationUnit.drop_more last, TranslationUnit.drop_more (same ▸ last)]
    exact ⟨by omega, fun owned => (joined.facts (by omega)).countUnit _, joined.calls⟩

/-! ### Units -/

private theorem Pairing.renew (inUse : P.inUse) :
    Twinned m P.Working P.Working (fun _ _ _ => True)
      (P.unit.update fun cell => { cell with generation := cell.generation + 1 } : Action σ Unit)
      (P.unit'.update fun cell => { cell with generation := cell.generation + 1 } : Action σ Unit) := by
  refine ⟨fun {m₁ w v} _ working => ⟨m₁, .refl m₁, ?_, trivial⟩⟩
  have owned := working.owned inUse
  have facts := working.fact inUse
  have renewed := w.generation_renew (w.known_of_unit_owned owned) P.unit
  have renewed' := v.generation_renew (v.known_of_unit_owned (working.owners ▸ owned)) P.unit'
  have owners := w.unit_owners_renew P.unit P.unit
  have owners' := v.unit_owners_renew P.unit' P.unit'
  change P.Working m₁ (w.renew P.unit) (v.renew P.unit')
  refine ⟨⟨?_, fun _ => ⟨?_, ?_, ?_, ?_, ?_, ?_, ?_, facts.engines⟩, working.calls⟩, fun _ => ?_⟩
  · rw [owners, owners', working.owners]
  · rw [World.unit_raw_renew]; exact facts.raw
  · rw [World.unit_raw_renew]; exact facts.raw'
  · rw [World.unit_index_renew]; exact facts.index
  · rw [World.unit_index_renew]; exact facts.index'
  · rw [World.unit_index_renew]; exact facts.indexOwned
  · rw [World.unit_index_renew]; exact facts.indexOwned'
  · rw [renewed, renewed', facts.generation, if_pos rfl, if_pos rfl]
  · rw [owners]; exact owned

/-- What is reported stands between other work. -/
theorem Pairing.tell {α β : Type} {good : Matching → α → β → Prop} (e e' : Event) {next : Attempt σ α}
    {next' : Attempt σ β} (goesOn : Twinned m P.Working P.Working (fun m => SameResult (good m)) next.run next'.run) :
    Twinned m P.Working P.Working (fun m => SameResult (good m)) (perform (HandleGraph.report e) >>= fun _ => next).run
      (perform (HandleGraph.report e') >>= fun _ => next').run :=
  (Twinned.perform (report e e')).next fun _ _ _ grown _ => goesOn.later grown

theorem Pairing.needText {text text' : Action σ (Option String)}
    (twins : Twinned m P.Working P.Working (fun _ => Eq) text text') (e : Error) :
    Twinned m P.Working P.Working (fun _ => SameResult Eq) (perform text >>= fun found => match found with
        | some text => pure text
        | none => throw e : Attempt σ String).run
      (perform text' >>= fun found => match found with
        | some text => pure text
        | none => throw e : Attempt σ String).run := by
  refine (Twinned.perform twins).next fun _ found _ _ same => ?_
  subst same
  cases found with
  | none => exact .throw e
  | some text => exact .ok fun _ _ => rfl

variable (isolated : Isolated E elsewhere P.same) (inUse : P.inUse)
include isolated inUse

theorem Isolated.unitSpelling :
    Twinned m P.Working P.Working (fun _ => SameResult Eq) (P.unit.spelling E).run (P.unit'.spelling E).run := by
  refine .read fun m₁ w v _ working => ?_
  rw [(working.fact inUse).raw, (working.fact inUse).raw']
  exact Pairing.needText (isolated.copy inUse .unit) _

/-- A reparse of the unit has the same status on both sides, so both are renewed or neither. -/
theorem Isolated.reparse (files : List UnsavedFile) (options : Option ReparseOptions) :
    Twinned m P.Working P.Working (fun _ => SameResult fun _ _ => True) (P.unit.reparse E files options).run
      (P.unit'.reparse E files options).run := by
  have bits {m : Matching} : Twinned m P.Working P.Working (fun _ => Eq) (P.unit.reparseBits E options)
      (P.unit'.reparseBits E options) := by
    cases options with
    | some options => exact .pure fun _ _ => rfl
    | none =>
      refine .get fun m₁ w v _ working => ?_
      rw [(working.fact inUse).raw, (working.fact inUse).raw']
      exact isolated.ask inUse .reparseOptions
  refine .settle fun n => (Twinned.perform bits).next fun _ bits _ _ same => ?_
  subst same
  refine .read fun m₁ w v _ working => ?_
  rw [(working.fact inUse).raw, (working.fact inUse).raw']
  refine (Twinned.perform (isolated.ask inUse (.reparse n bits))).next fun _ code _ _ same => ?_
  subst same
  split_ifs
  · exact Pairing.tell _ _ (.throw _)
  · refine (Twinned.perform (Pairing.renew inUse)).next fun _ _ _ _ _ => .read fun _ _ _ _ _ => ?_
    exact .perform (Pairing.report _ _)

/-- A save of the unit has the same status on both sides. -/
theorem Isolated.save (path : Bytes) :
    Twinned m P.Working P.Working (fun _ => SameResult fun _ _ => True) (P.unit.save E path).run
      (P.unit'.save E path).run := by
  refine .settle fun p => .read fun m₁ w v _ working => ?_
  rw [(working.fact inUse).raw, (working.fact inUse).raw']
  refine (Twinned.perform (isolated.ask inUse .saveOptions)).next fun _ bits _ grown same => ?_
  subst same
  refine (Twinned.perform ((isolated.ask inUse (.save p bits)).later grown)).next fun _ code _ _ same => ?_
  subst same
  split_ifs
  · exact Pairing.tell _ _ (.throw _)
  · exact .perform (Pairing.report _ _)

omit isolated inUse

/-! ### Files -/

structure Pairing.Files (P : Pairing σ) (m : Matching) (f f' : File) : Prop where
  inUse : P.inUse
  raw : m.file f.raw f'.raw
  unit : f.unit = P.unit
  unit' : f'.unit = P.unit'

theorem Pairing.Files.mono {m' : Matching} {f f' : File} (files : P.Files m f f') (grown : m.Grows m') :
    P.Files m' f f' := ⟨files.inUse, grown.file files.raw, files.unit, files.unit'⟩

theorem Pairing.Files.clone {f f' : File} (files : P.Files m f f') :
    Twinned m P.Working P.Working P.Files (f.clone : Action σ File) (f'.clone : Action σ File) := by
  unfold File.clone
  rw [files.unit, files.unit']
  refine (Pairing.clone files.inUse).bind fun m₁ _ _ grown same => .pure fun m₂ grown' => ?_
  exact ⟨files.inUse, (grown.trans grown').file files.raw, same.1, same.2⟩

variable (isolated : Isolated E elsewhere P.same)
include isolated

theorem Isolated.getFile (inUse : P.inUse) (path : Bytes) :
    Twinned m P.Working P.Working (fun m => SameResult (P.Files m)) (P.unit.getFile E path).run
      (P.unit'.getFile E path).run := by
  refine .settle fun p => .read fun m₁ w v _ working => ?_
  rw [(working.fact inUse).raw, (working.fact inUse).raw']
  refine (Twinned.perform (isolated.ask inUse (.getFile p))).next fun m₂ raw raw' _ matched => ?_
  rw [m₂.file_null matched]
  split_ifs
  · exact .throw _
  · refine (Twinned.perform (Pairing.clone inUse)).next fun m₃ _ _ grown same => .ok fun m₄ grown' => ?_
    exact ⟨inUse, (grown.trans grown').file matched, same.1, same.2⟩

theorem Isolated.fileName {f f' : File} (files : P.Files m f f') :
    Twinned m P.Working P.Working (fun _ => SameResult Eq) (f.name E).run (f'.name E).run :=
  Pairing.needText (isolated.copy files.inUse (.file files.raw)) _

theorem Isolated.fileDisplay {f f' : File} (files : P.Files m f f') :
    Twinned m P.Working P.Working (fun _ => Eq) (f.display E) (f'.display E) := by
  refine (isolated.fileName files).bind fun _ result result' _ same => ?_
  cases same with
  | ok same => exact .pure fun _ _ => same
  | error e => exact .pure fun _ _ => rfl

end Operations

end HandleGraph
