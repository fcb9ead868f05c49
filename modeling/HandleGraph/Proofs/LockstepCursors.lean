import HandleGraph.Proofs.Lockstep
import HandleGraph.Session.Step

/-! # Cursors in lockstep

With engines in lockstep a cursor that remembers the same answers the same and remembers the same
afterwards, on every path of links. The elements of sequences are alike, and so is all that objects show.
-/

namespace HandleGraph

variable {σ τ α β : Type}

namespace Lockstep

variable {E : Engine σ} {F : Engine τ} {fits : List CString × List NativeUnsavedFile → Prop}
  {K : Coupling (World σ) (World τ)}

/-! ## Queries about cursors -/

theorem queryText (step : Lockstep E F fits K) (t : CursorText) (c : Cursor) :
    Alike K (c.queryText E t).run (c.queryText F t).run :=
  .settle fun _ _ => needText (step.copying (.cursor t c.raw)) _

private theorem queryOptionalText (step : Lockstep E F fits K) (t : CursorText) (c : Cursor) :
    Alike K (c.queryOptionalText E t).run (c.queryOptionalText F t).run :=
  .settle fun _ _ => .perform (step.copying (.cursor t c.raw))

/-- A cursor derived from another is made from the same handle in both worlds, or neither. -/
theorem queryLink (step : Lockstep E F fits K) (l : Link) (c : Cursor) :
    Alike K (c.queryLink E l).run (c.queryLink F l).run := by
  refine .settle fun u _ => (Alike.perform (step.asking (.link l c.raw) rfl step.fits_nil)).next fun raw => ?_
  split_ifs
  · exact step.tell _ (.ok _)
  · exact .throw _
  · exact step.tell _ (.perform (step.makeCursor raw u _))

private theorem cloneCursor (step : Lockstep E F fits K) (c : Cursor) : Alike K c.clone c.clone := by
  unfold Cursor.clone
  cases c.unit with
  | none => exact .pure _
  | some u => exact step.makeCursor _ u _

/-- Comparing takes the unit of either cursor, and so of the same one. -/
theorem equal (step : Lockstep E F fits K) (a b : Cursor) : Alike K (a.equal E b) (a.equal F b) :=
  .ite _ (step.asking (.equalCursors a.raw b.raw) rfl step.fits_nil) (.pure _)

/-! ## Sequences -/

private theorem produce (step : Lockstep E F fits K) (s : CursorSequence) (index : Nat) :
    Alike K (s.produce E index).run (s.produce F index).run := by
  unfold CursorSequence.produce
  cases s.source with
  | children raws =>
    dsimp only
    cases raws[index]? with
    | none => exact .throw _
    | some raw => exact .perform (step.makeCursor raw _ _)
  | arguments parent count =>
    dsimp only
    split_ifs
    · exact .throw _
    · refine (Alike.perform (step.asking (.argument parent _) rfl step.fits_nil)).next fun raw => ?_
      split_ifs
      · exact .throw _
      · exact .perform (step.makeCursor raw _ _)

private theorem get_element (step : Lockstep E F fits K) (s : CursorSequence) (index : Nat) :
    Alike K ((s.toSequence E).get index) ((s.toSequence F).get index) :=
  .ite _ (step.produce s index) (.pure _)

/-- Each access looks at the length, which is the same, and asks for the same position. -/
theorem reach (step : Lockstep E F fits K) (s : CursorSequence) (element : Access) :
    Alike K (element.reach E s).run (element.reach F s).run := by
  cases element with
  | get index => exact step.get_element s index
  | getUnchecked index => exact step.produce s index
  | front => exact step.get_element s 0
  | back =>
    change Alike K ((s.toSequence E).back) ((s.toSequence F).back)
    have size {τ : Type} (F : Engine τ) : (s.toSequence F).length = s.length := rfl
    unfold Sequence.back
    rw [size, size]
    cases s.length with
    | zero => exact .pure _
    | succ n => exact step.get_element s n

private theorem drain_go (step : Lockstep E F fits K) (s : CursorSequence) (side : Sequence.Side) (fuel : Nat)
    (it : Sequence.Iterator) :
    Alike K (Sequence.drain.go (s.toSequence E) side fuel it) (Sequence.drain.go (s.toSequence F) side fuel it) := by
  induction fuel generalizing it with
  | zero => exact .pure _
  | succ fuel ih =>
    unfold Sequence.drain.go
    cases it.take? side with
    | none => exact .pure _
    | some taken => exact (step.produce s taken.1).bind fun element => (ih taken.2).bind fun rest => .pure _

private theorem gather_go (step : Lockstep E F fits K) (s : CursorSequence) (side : Sequence.Side) (fuel : Nat)
    (it : Sequence.Iterator) :
    Alike K (Sequence.gather.go (s.toSequence E) side fuel it) (Sequence.gather.go (s.toSequence F) side fuel it) := by
  induction fuel generalizing it with
  | zero => exact .pure _
  | succ fuel ih =>
    unfold Sequence.gather.go
    cases it.take? side with
    | none => exact .pure _
    | some taken =>
      refine (step.produce s taken.1).bind fun element => ?_
      cases element with
      | error e => exact .pure _
      | ok c => exact (ih taken.2).bind fun rest => .pure _

theorem drain (step : Lockstep E F fits K) (s : CursorSequence) (side : Sequence.Side) :
    Alike K ((s.toSequence E).drain side (s.toSequence E).iter)
      ((s.toSequence F).drain side (s.toSequence F).iter) :=
  step.drain_go s side _ _

/-- Gathering stops at the same element, as the results are the same up to there. -/
theorem gather (step : Lockstep E F fits K) (s : CursorSequence) (side : Sequence.Side) :
    Alike K ((s.toSequence E).gather side (s.toSequence E).iter)
      ((s.toSequence F).gather side (s.toSequence F).iter) :=
  step.gather_go s side _ _

end Lockstep

/-! ## Asking cursors -/

instance (σ : Type) : Recording (Focus σ) := ⟨fun f => f.world.calls⟩

/-- The same cursor is asked in worlds that belong together. -/
def Coupling.focus (K : Coupling (World σ) (World τ)) : Coupling (Focus σ) (Focus τ) :=
  K.along fun f g => f.cursor = g.cursor ∧ K.rel f.world g.world

namespace Alike

variable {K : Coupling (World σ) (World τ)}

private theorem lift {work : Attempt σ α} {other : Attempt τ α} (alike : Alike K work.run other.run) :
    Alike K.focus (Inspect.lift work).run (Inspect.lift other).run where
  grows f := alike.grows f.world
  grows' g := alike.grows' g.world
  same coupled granted granted' := by
    obtain ⟨result, together⟩ := alike.same coupled.2 granted granted'
    exact ⟨result, coupled.1, together⟩

theorem receiver : Alike K.focus (Inspect.receiver : Inspect σ Cursor).run (Inspect.receiver : Inspect τ Cursor).run :=
  .quiet (fun _ => rfl) (fun _ => rfl) fun coupled => ⟨congrArg Except.ok coupled.1, coupled⟩

private theorem remember (change : Memo Cursor → Memo Cursor) :
    Alike K.focus (Inspect.remember change : Inspect σ Unit).run (Inspect.remember change : Inspect τ Unit).run :=
  .quiet (fun _ => rfl) (fun _ => rfl) fun {f g} coupled => by
    obtain ⟨same, together⟩ := coupled
    exact ⟨rfl, congrArg (fun c : Cursor => { c with memo := change c.memo }) same, together⟩

/-- What is remembered is the same, so one world remembers just when the other does. -/
theorem memoised (recollect : Memo Cursor → Option α) (keep : α → Memo Cursor → Memo Cursor)
    {work : Cursor → Attempt σ α} {other : Cursor → Attempt τ α}
    (alike : ∀ c, Alike K (work c).run (other c).run) :
    Alike K.focus (Inspect.memoised recollect keep work).run (Inspect.memoised recollect keep other).run := by
  refine receiver.next fun c => ?_
  cases recollect c.memo with
  | some answer => exact ok answer
  | none => exact (lift (alike c)).next fun answer => (remember (keep answer)).next fun _ => ok answer

private theorem onOther {work : Inspect σ α} {other : Inspect τ α} (alike : Alike K.focus work.run other.run)
    (c : Cursor) :
    Alike K.focus (Inspect.onOther work c).run (Inspect.onOther other c).run where
  grows f := alike.grows ⟨c, f.world⟩
  grows' g := alike.grows' ⟨c, g.world⟩
  same {f g} coupled granted granted' := by
    have inner : K.focus.rel ⟨c, f.world⟩ ⟨c, g.world⟩ := ⟨rfl, coupled.2⟩
    obtain ⟨result, cursor, together⟩ := alike.same inner granted granted'
    exact ⟨congrArg Except.ok (Prod.ext result cursor), coupled.1, together⟩

end Alike

namespace Lockstep

variable {E : Engine σ} {F : Engine τ} {fits : List CString × List NativeUnsavedFile → Prop}
  {K : Coupling (World σ) (World τ)}

private theorem look {next : Focus σ → Inspect σ β} {next' : Focus τ → Inspect τ β} (step : Lockstep E F fits K)
    (goesOn : ∀ f g, f.cursor = g.cursor → SameCells f.world g.world → Alike K.focus (next f).run (next' g).run) :
    Alike K.focus (MonadState.get >>= next).run (MonadState.get >>= next').run := by
  refine Alike.read (V := fun f g => f.cursor = g.cursor ∧ SameCells f.world g.world) ?_ ?_ ?_ fun f g same =>
    goesOn f g same.1 same.2
  · exact fun coupled => ⟨coupled.1, step.cells coupled.2⟩
  · intro f
    obtain ⟨w, same⟩ := SameCells.exists_right step.inhabited' f.world
    exact ⟨⟨f.cursor, w⟩, rfl, same⟩
  · intro g
    obtain ⟨w, same⟩ := SameCells.exists_left step.inhabited g.world
    exact ⟨⟨g.cursor, w⟩, rfl, same⟩

private theorem spelling (step : Lockstep E F fits K) : Alike K.focus (Cursor.spelling E).run (Cursor.spelling F).run :=
  .memoised _ _ fun c => (step.queryText .spelling c).next fun text => step.tell _ (.ok text)

private theorem displayName (step : Lockstep E F fits K) :
    Alike K.focus (Cursor.displayName E).run (Cursor.displayName F).run :=
  .memoised _ _ (step.queryText .displayName)

private theorem hash (step : Lockstep E F fits K) : Alike K.focus (Cursor.hash E).run (Cursor.hash F).run :=
  .memoised _ _ fun c => .settle fun _ _ => .perform (step.asking (.hash c.raw) rfl step.fits_nil)

private theorem link (step : Lockstep E F fits K) (l : Link) :
    Alike K.focus (Cursor.link E l).run (Cursor.link F l).run :=
  .memoised _ _ (step.queryLink l)

private theorem within (step : Lockstep E F fits K) (l : Link) {work : Inspect σ α} {other : Inspect τ α}
    (alike : Alike K.focus work.run other.run) :
    Alike K.focus (Cursor.within E l work).run (Cursor.within F l other).run := by
  refine (step.link l).next fun c => (Alike.onOther alike c).next fun result => ?_
  exact (Alike.remember _).next fun _ => .pure result.1

/-- Along a path by induction: one link after the other is followed in both, and then the work is alike. -/
theorem along (step : Lockstep E F fits K) (path : List Link) {work : Inspect σ α} {other : Inspect τ α}
    (alike : Alike K.focus work.run other.run) :
    Alike K.focus (Cursor.along E path work).run (Cursor.along F path other).run := by
  induction path with
  | nil => exact alike
  | cons l path ih => exact step.within l ih

private theorem children (step : Lockstep E F fits K) :
    Alike K.focus (Cursor.children E).run (Cursor.children F).run := by
  refine Alike.receiver.next fun c => .lift (.settle fun u _ => ?_)
  refine (Alike.perform (step.walking c.raw _)).next fun walk => ?_
  split_ifs
  · exact step.tell _ (.throw _)
  · exact (Alike.perform (step.clone_unit u)).next fun _ => .ok _

private theorem arguments (step : Lockstep E F fits K) :
    Alike K.focus (Cursor.arguments E).run (Cursor.arguments F).run := by
  refine Alike.receiver.next fun c => .lift (.settle fun u _ => ?_)
  refine (Alike.perform (step.asking (.argumentCount c.raw) rfl step.fits_nil)).next fun count => ?_
  exact (Alike.perform (step.clone_unit u)).next fun _ => .ok _

private theorem test (step : Lockstep E F fits K) (t : CursorTest) :
    Alike K.focus (Cursor.test E t).run (Cursor.test F t).run :=
  Alike.receiver.next fun c => .lift (.settle fun _ _ =>
    .perform (step.asking (.test t c.raw) rfl step.fits_nil))

private theorem bitFieldWidth (step : Lockstep E F fits K) :
    Alike K.focus (Cursor.bitFieldWidth E).run (Cursor.bitFieldWidth F).run :=
  Alike.receiver.next fun c => .lift (.settle fun _ _ =>
    (Alike.perform (step.asking (.bitWidth c.raw) rfl step.fits_nil)).next fun _ => .ok _)

/-! ## What objects show -/

private theorem answerWith (step : Lockstep E F fits K) (o : Object) :
    Alike K.focus (Question.ask.made o : Inspect σ Outcome).run (Question.ask.made o : Inspect τ Outcome).run := by
  refine step.look fun f g _ same => ?_
  rw [Outcome.of, Outcome.of, same.reply]
  exact .ok _

private theorem make {γ : Type} (step : Lockstep E F fits K) (wrap : γ → Object) {work : Action σ γ}
    {other : Action τ γ}
    (alike : Alike K work other) :
    Alike K.focus (Question.ask.make wrap work).run (Question.ask.make wrap other).run :=
  (Alike.lift (.perform alike)).next fun c => step.answerWith (wrap c)

private theorem settleKind {γ : Type} (result : Except Error γ) :
    Alike K.focus (Question.ask.settleKind result : Inspect σ γ).run
      (Question.ask.settleKind result : Inspect τ γ).run :=
  .lift (.pure result)

/-- Whatever a cursor is asked. -/
theorem question (step : Lockstep E F fits K) (q : Question) : Alike K.focus (q.ask E).run (q.ask F).run := by
  cases q with
  | view =>
    refine Alike.receiver.next fun c => step.look fun f g _ same => ?_
    rw [same.view]
    exact .ok _
  | copy => exact Alike.receiver.next fun c => step.make .cursor (step.cloneCursor c)
  | unit =>
    refine Alike.receiver.next fun c => ?_
    cases c.unit with
    | none => exact .ok _
    | some u => exact step.make .unit (step.clone_unit u)
  | kind => exact Alike.receiver.next fun c => (settleKind _).next fun kind => (settleKind _).next fun name => .ok _
  | spelling => exact step.spelling.next fun _ => .ok _
  | displayName => exact step.displayName.next fun _ => .ok _
  | usr => exact (Alike.receiver.next fun c => .lift (step.queryText .usr c)).next fun _ => .ok _
  | hash => exact step.hash.next fun _ => .ok _
  | link l => exact (step.link l).next fun c => step.make .cursor (step.cloneCursor c)
  | test t => exact (step.test t).next fun _ => .ok _
  | briefComment =>
    exact (Alike.receiver.next fun c => .lift (step.queryOptionalText .briefComment c)).next fun _ => .ok _
  | rawComment =>
    exact (Alike.receiver.next fun c => .lift (step.queryOptionalText .rawComment c)).next fun _ => .ok _
  | bitFieldWidth => exact step.bitFieldWidth.next fun _ => .ok _
  | children => exact step.children.next fun s => step.answerWith (.cursors s)
  | arguments => exact step.arguments.next fun s => step.answerWith (.cursors s)

theorem describe (step : Lockstep E F fits K) (o : Object) : Alike K (o.describe E) (o.describe F) := by
  cases o with
  | index i =>
    refine step.get fun s t same => ?_
    rw [same.describe_index]
    exact .pure _
  | unit u =>
    refine step.get fun s t same => ?_
    rw [same.describe_unit]
    exact .pure _
  | file f => exact (step.fileDisplay f).bind fun _ => .pure _
  | cursor c =>
    refine step.get fun s t same => ?_
    rw [same.describe_cursor]
    exact .pure _
  | cursors s => exact .pure _

theorem cloneObject (step : Lockstep E F fits K) (o : Object) {copy : Action σ Object} {copy' : Action τ Object}
    (here : o.clone? = some copy) (there : o.clone? = some copy') : Alike K copy copy' := by
  cases o with
  | index i => cases here; cases there; exact .map _ (step.clone_index i)
  | unit u => cases here; cases there; exact .map _ (step.clone_unit u)
  | file f => cases here; cases there; exact .map _ ((step.clone_unit f.unit).bind fun _ => .pure _)
  | cursor c => cases here; cases there; exact .map _ (step.cloneCursor c)
  | cursors s => cases here

end Lockstep

end HandleGraph
