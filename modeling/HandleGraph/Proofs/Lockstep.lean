import HandleGraph.Graph.Inspect
import HandleGraph.Graph.TranslationUnit
import HandleGraph.Session.Object
import HandleGraph.Proofs.Alike
import Mathlib.Tactic.SplitIfs

/-! # Graphs in lockstep

Two engines are in lockstep when each of the things that a graph does with them is alike, in worlds whose
cells look alike. Then every operation is alike. How many owners a unit has does not show, so letting go
of one is not among these operations.
-/

namespace HandleGraph

/-- What shows of a unit: all but the number of its owners. -/
def UnitCell.face (cell : UnitCell) : UnitHandle × Index × UInt64 := (cell.raw, cell.index, cell.generation)

variable {σ τ α : Type}

/-- Worlds in which indexes are the same and units look the same. -/
structure SameCells (s : World σ) (t : World τ) : Prop where
  indexes : s.indexes = t.indexes
  units : s.units.map UnitCell.face = t.units.map UnitCell.face

namespace SameCells

variable {s : World σ} {t : World τ}

theorem raw (same : SameCells s t) (i : Index) : i.raw s = i.raw t := by
  rw [Index.raw, Index.raw, same.indexes]

theorem owners (same : SameCells s t) (i : Index) : i.owners s = i.owners t := by
  rw [Index.owners, Index.owners, same.indexes]

theorem describe_index (same : SameCells s t) (i : Index) : i.describe s = i.describe t := by
  unfold Index.describe
  rw [same.raw, same.owners]

/-- What is read off the face of a cell. -/
private theorem read (same : SameCells s t) {β : Type} (g : UnitHandle × Index × UInt64 → β) (absent : β) (k : Nat) :
    s.units[k]?.elim absent (fun cell => g cell.face) = t.units[k]?.elim absent fun cell => g cell.face := by
  have faces := congrArg (fun faces => faces[k]?.elim absent g) same.units
  simpa only [List.getElem?_map, Option.elim_map, Function.comp_def] using faces

theorem unit_raw (same : SameCells s t) (u : TranslationUnit) : u.raw s = u.raw t :=
  same.read (fun face => face.1) NullHandle.null u.cell

theorem unit_index (same : SameCells s t) (u : TranslationUnit) : u.index s = u.index t :=
  same.read (fun face => face.2.1) ⟨0⟩ u.cell

theorem generation (same : SameCells s t) (u : TranslationUnit) : u.generation s = u.generation t :=
  same.read (fun face => face.2.2) 0 u.cell

theorem describe_unit (same : SameCells s t) (u : TranslationUnit) : u.describe s = u.describe t := by
  unfold TranslationUnit.describe
  rw [same.unit_raw, same.generation]

private theorem isStale (same : SameCells s t) (c : Cursor) : c.isStale s = c.isStale t := by
  simp only [Cursor.isStale, same.generation]

theorem view (same : SameCells s t) (c : Cursor) : c.view s = c.view t := by
  rw [Cursor.view, Cursor.view, same.isStale]

theorem describe_cursor (same : SameCells s t) (c : Cursor) : c.describe s = c.describe t := by
  unfold Cursor.describe
  rw [same.isStale]

/-- What is answered of an object is in the cells that show. -/
theorem reply (same : SameCells s t) (o : Object) : o.reply s = o.reply t := by
  cases o <;> simp only [Object.reply, same.raw, same.unit_raw, same.unit_index, same.view]

private theorem units_length (same : SameCells s t) : s.units.length = t.units.length := by
  simpa using congrArg List.length same.units

/-- Whatever the cells are, there is a world with the other engine that has the same. -/
theorem exists_right (inhabited : Nonempty τ) (s : World σ) : ∃ t : World τ, SameCells s t :=
  inhabited.elim fun engine => ⟨⟨engine, s.indexes, s.units, [], []⟩, rfl, rfl⟩

theorem exists_left (inhabited : Nonempty σ) (t : World τ) : ∃ s : World σ, SameCells s t :=
  inhabited.elim fun engine => ⟨⟨engine, t.indexes, t.units, [], []⟩, rfl, rfl⟩

end SameCells

/-- What a text of the engine is of. -/
inductive TextSource where
  | unit (raw : UnitHandle)
  | file (raw : FileHandle)
  | cursor (t : CursorText) (raw : CursorHandle)

/-- What an engine answers when it is asked for a text. -/
def TextSource.handOut (E : Engine σ) : TextSource → σ → StringHandle × σ
  | .unit raw => E.answer (.unitSpelling raw)
  | .file raw => E.answer (.fileName raw)
  | .cursor t raw => E.answer (.text t raw)

def TextSource.copy (E : Engine σ) : TextSource → Action σ (Option String)
  | .unit raw => do takeOptionalString E (← ask E (.unitSpelling raw))
  | .file raw => do takeOptionalString E (← ask E (.fileName raw))
  | .cursor t raw => do takeOptionalString E (← ask E (.text t raw))

/-- Queries that no text and no string is about. -/
def Query.isPlain : Query → Bool
  | .unitSpelling _ | .fileName _ | .text .. | .readString _ | .disposeString _ => false
  | _ => true

/-- The compiler arguments and unsaved files that a query passes on. -/
def Query.lists : Query → List CString × List NativeUnsavedFile
  | .parse _ _ args unsaved _ => (args, unsaved)
  | .reparse _ unsaved _ => ([], unsaved)
  | _ => ([], [])

/-- What a graph does with two engines is alike, as long as the lists that it passes on fit. -/
structure Lockstep (E : Engine σ) (F : Engine τ) (fits : List CString × List NativeUnsavedFile → Prop)
    (K : Coupling (World σ) (World τ)) : Prop where
  inhabited : Nonempty σ
  inhabited' : Nonempty τ
  cells : ∀ {s t}, K.rel s t → SameCells s t
  fits_nil : fits ([], [])
  asking : ∀ q, q.isPlain → fits q.lists → Alike K (ask E q) (ask F q)
  copying : ∀ source : TextSource, Alike K (source.copy E) (source.copy F)
  walking : ∀ c visitor, Alike K (walkChildren E c visitor) (walkChildren F c visitor)
  reporting : ∀ e, Alike K (report e) (report e)
  indexes : ∀ {s t} (change : List IndexCell → List IndexCell), K.rel s t →
    K.rel { s with indexes := change s.indexes } { t with indexes := change t.indexes }
  /-- A change that is the same for units that look the same. -/
  units : ∀ {s t} (change : List UnitCell → List UnitCell), (∀ cells others : List UnitCell,
    cells.map UnitCell.face = others.map UnitCell.face →
      (change cells).map UnitCell.face = (change others).map UnitCell.face) →
    K.rel s t → K.rel { s with units := change s.units } { t with units := change t.units }

/-- Lists that fit once they are converted. -/
def ListsFit (fits : List CString × List NativeUnsavedFile → Prop) (args : List String)
    (files : List UnsavedFile) : Prop :=
  ∀ a n, Marshal.args args = .ok a → Marshal.unsaved files = .ok n → fits (a, n)

namespace Lockstep

variable {E : Engine σ} {F : Engine τ} {fits : List CString × List NativeUnsavedFile → Prop}
  {K : Coupling (World σ) (World τ)}

/-- Worlds may be looked at for what shows of their cells. -/
theorem read {β ε : Type} {next : World σ → ExceptT ε (StateM (World σ)) β}
    {next' : World τ → ExceptT ε (StateM (World τ)) β} (step : Lockstep E F fits K)
    (goesOn : ∀ s t, SameCells s t → Alike K (next s).run (next' t).run) :
    Alike K (MonadState.get >>= next).run (MonadState.get >>= next').run :=
  .read step.cells (SameCells.exists_right step.inhabited') (SameCells.exists_left step.inhabited) goesOn

/-- Like `read`, for work that cannot fail. -/
theorem get {β : Type} {next : World σ → Action σ β} {next' : World τ → Action τ β} (step : Lockstep E F fits K)
    (goesOn : ∀ s t, SameCells s t → Alike K (next s) (next' t)) :
    Alike K (MonadState.get >>= next) (MonadState.get >>= next') :=
  .get step.cells (SameCells.exists_right step.inhabited') (SameCells.exists_left step.inhabited) goesOn


/-! ## Cells -/

private theorem change_indexes (step : Lockstep E F fits K) (change : List IndexCell → List IndexCell) :
    Alike K (modify fun w => { w with indexes := change w.indexes })
      (modify fun w => { w with indexes := change w.indexes }) :=
  .quiet (fun _ => rfl) (fun _ => rfl) fun coupled => ⟨rfl, step.indexes change coupled⟩

private theorem map_face_modify {change : UnitCell → UnitCell}
    (alike : ∀ cell other : UnitCell, cell.face = other.face → (change cell).face = (change other).face)
    {cells others : List UnitCell} (same : cells.map UnitCell.face = others.map UnitCell.face) (k : Nat) :
    (cells.modify k change).map UnitCell.face = (others.modify k change).map UnitCell.face := by
  induction cells generalizing others k with
  | nil =>
    obtain rfl := List.map_eq_nil_iff.mp same.symm
    rfl
  | cons cell rest ih =>
    obtain ⟨other, later, rfl, here, there⟩ := List.map_eq_cons_iff.mp same.symm
    cases k with
    | zero => simp only [List.modify_zero_cons, List.map_cons, there, alike cell other here.symm]
    | succ k => simp only [List.modify_succ_cons, List.map_cons, here, ih there.symm]

/-- The cells of units may be changed one by one, if not by the number of owners. -/
theorem update_unit (step : Lockstep E F fits K) (u : TranslationUnit) (change : UnitCell → UnitCell)
    (alike : ∀ cell other : UnitCell, cell.face = other.face → (change cell).face = (change other).face) :
    Alike K (u.update change) (u.update change) :=
  .quiet (fun _ => rfl) (fun _ => rfl) fun coupled =>
    ⟨rfl, step.units (·.modify u.cell change) (fun _ _ same => map_face_modify alike same _) coupled⟩

private theorem allocate_index (step : Lockstep E F fits K) (raw : IndexHandle) :
    Alike K (Index.allocate raw) (Index.allocate raw) :=
  .quiet (fun _ => rfl) (fun _ => rfl) fun coupled =>
    ⟨congrArg (Index.mk ·.length) (step.cells coupled).indexes,
      step.indexes (fun cells => cells ++ [IndexCell.mk raw 1]) coupled⟩

theorem clone_index (step : Lockstep E F fits K) (i : Index) : Alike K i.clone i.clone :=
  (step.change_indexes _).bind fun _ => .pure i

theorem clone_unit (step : Lockstep E F fits K) (u : TranslationUnit) : Alike K u.clone u.clone :=
  (step.update_unit u (fun cell => { cell with owners := cell.owners + 1 }) fun _ _ same => same).bind
    fun _ => .pure u

private theorem allocate_unit (step : Lockstep E F fits K) (raw : UnitHandle) (i : Index) :
    Alike K (TranslationUnit.allocate raw i) (TranslationUnit.allocate raw i) := by
  refine (step.clone_index i).bind fun index => ?_
  refine .quiet (fun _ => rfl) (fun _ => rfl) fun coupled =>
    ⟨congrArg TranslationUnit.mk (step.cells coupled).units_length,
      step.units (fun cells => cells ++ [UnitCell.mk raw index 0 1]) (fun cells others same => ?_) coupled⟩
  rw [List.map_append, List.map_append, same]

theorem drop_index (step : Lockstep E F fits K) (i : Index) :
    Alike K (i.drop E) (i.drop F) := by
  refine step.get fun s t same => (step.change_indexes _).bind fun _ => ?_
  rw [same.owners, same.raw]
  exact .ite _ ((step.reporting _).bind fun _ => step.asking _ rfl step.fits_nil) (.pure ())

/-! ## Operations -/

/-- Reporting an event is no call, so what comes after has to be alike only. -/
theorem tell (step : Lockstep E F fits K) (e : Event) {next : Attempt σ α} {next' : Attempt τ α}
    (goesOn : Alike K next.run next'.run) :
    Alike K (perform (report e) >>= fun _ => next).run (perform (report e) >>= fun _ => next').run :=
  (Alike.perform (step.reporting e)).next fun _ => goesOn

theorem create (step : Lockstep E F fits K) (options : IndexOptions) :
    Alike K (Index.create E options).run (Index.create F options).run := by
  refine (Alike.perform (step.asking (.createIndex options) rfl step.fits_nil)).next fun raw => ?_
  split_ifs
  · exact step.tell _ (.throw _)
  · exact step.tell _ (.perform (step.allocate_index raw))

/-- The lists of a parse have to fit what the interface can count. -/
theorem parse (step : Lockstep E F fits K) (i : Index) (path : Bytes) {args : List String}
    {files : List UnsavedFile} (fit : ListsFit fits args files) (options : ParseOptions) :
    Alike K (i.parse E path args files options).run (i.parse F path args files options).run := by
  refine .settle fun p _ => .settle fun a marshaledArgs => .settle fun n marshaledFiles => ?_
  refine step.read fun s t same => ?_
  rw [same.raw]
  refine (Alike.perform (step.asking (.parse _ p a n _) rfl (fit a n marshaledArgs marshaledFiles))).next fun raw => ?_
  split_ifs
  · exact step.tell _ (.throw _)
  · exact step.tell _ (.perform (step.allocate_unit raw i))

theorem load (step : Lockstep E F fits K) (i : Index) (path : Bytes) :
    Alike K (i.read E path).run (i.read F path).run := by
  refine .settle fun p _ => step.read fun s t same => ?_
  rw [same.raw]
  refine (Alike.perform (step.asking (.load _ p) rfl step.fits_nil)).next fun raw => ?_
  split_ifs
  · exact step.tell _ (.throw _)
  · exact step.tell _ (.perform (step.allocate_unit raw i))

private theorem withPrivate (step : Lockstep E F fits K) {work : Index → Attempt σ α} {work' : Index → Attempt τ α}
    (alike : ∀ i, Alike K (work i).run (work' i).run) :
    Alike K (Index.withPrivate E work).run (Index.withPrivate F work').run := by
  refine (step.create {}).next fun i => ?_
  refine (Alike.perform (alike i)).next fun result => ?_
  exact (Alike.perform (step.drop_index i)).next fun _ => .pure result

theorem ofSource (step : Lockstep E F fits K) (path : Bytes) {args : List String} {files : List UnsavedFile}
    (fit : ListsFit fits args files) (options : ParseOptions) :
    Alike K (TranslationUnit.ofSource E path args files options).run
      (TranslationUnit.ofSource F path args files options).run :=
  step.withPrivate fun i => step.parse i path fit options

theorem ofAstFile (step : Lockstep E F fits K) (path : Bytes) :
    Alike K (TranslationUnit.ofAstFile E path).run (TranslationUnit.ofAstFile F path).run :=
  step.withPrivate fun i => step.load i path

/-- A text that an operation cannot do without. -/
theorem needText {text : Action σ (Option String)} {text' : Action τ (Option String)} (alike : Alike K text text')
    (e : Error) : Alike K (perform text >>= fun found => match found with
        | some text => pure text
        | none => throw e : Attempt σ String).run
      (perform text' >>= fun found => match found with
        | some text => pure text
        | none => throw e : Attempt τ String).run := by
  refine (Alike.perform alike).next fun found => ?_
  cases found with
  | none => exact .throw e
  | some text => exact .ok text

theorem unitSpelling (step : Lockstep E F fits K) (u : TranslationUnit) :
    Alike K (u.spelling E).run (u.spelling F).run := by
  refine step.read fun s t same => ?_
  rw [same.unit_raw]
  exact needText (step.copying (.unit _)) _

theorem fileName (step : Lockstep E F fits K) (f : File) : Alike K (f.name E).run (f.name F).run :=
  needText (step.copying (.file f.raw)) _

theorem fileDisplay (step : Lockstep E F fits K) (f : File) : Alike K (f.display E) (f.display F) := by
  refine (step.fileName f).bind fun result => ?_
  cases result <;> exact .pure _

theorem makeCursor (step : Lockstep E F fits K) (raw : CursorHandle) (u : TranslationUnit) (generation : UInt64) :
    Alike K (Cursor.make raw u generation) (Cursor.make raw u generation) :=
  (step.clone_unit u).bind fun _ => .pure _

theorem root (step : Lockstep E F fits K) (u : TranslationUnit) : Alike K (u.root E).run (u.root F).run := by
  refine step.read fun s t same => ?_
  rw [same.unit_raw, same.generation]
  refine (Alike.perform (step.asking (.rootCursor _) rfl step.fits_nil)).next fun raw => ?_
  split_ifs
  · exact step.tell _ (.throw _)
  · exact .perform (step.makeCursor raw u _)

theorem getFile (step : Lockstep E F fits K) (u : TranslationUnit) (path : Bytes) :
    Alike K (u.getFile E path).run (u.getFile F path).run := by
  refine .settle fun p _ => step.read fun s t same => ?_
  rw [same.unit_raw]
  refine (Alike.perform (step.asking (.getFile _ p) rfl step.fits_nil)).next fun raw => ?_
  split_ifs
  · exact .throw _
  · exact (Alike.perform (step.clone_unit u)).next fun _ => .ok _

/-- The files of a reparse have to fit, too. The unit is renewed in both worlds or in neither, by the same status. -/
theorem reparse (step : Lockstep E F fits K) (u : TranslationUnit) {files : List UnsavedFile}
    (fit : ListsFit fits [] files) (options : Option ReparseOptions) :
    Alike K (u.reparse E files options).run (u.reparse F files options).run := by
  have bits : Alike K (u.reparseBits E options) (u.reparseBits F options) := by
    cases options with
    | some options => exact .pure _
    | none =>
      refine step.get fun s t same => ?_
      rw [same.unit_raw]
      exact step.asking (.defaultReparseOptions _) rfl step.fits_nil
  refine .settle fun n marshaled => (Alike.perform bits).next fun bits => step.read fun s t same => ?_
  rw [same.unit_raw]
  refine (Alike.perform (step.asking (.reparse _ n bits) rfl (fit [] n rfl marshaled))).next fun code => ?_
  split_ifs
  · exact step.tell _ (.throw _)
  · refine (Alike.perform (step.update_unit u _ ?_)).next fun _ => step.read fun s t same => ?_
    · rintro ⟨⟩ ⟨⟩ same
      obtain ⟨rfl, rfl, rfl⟩ : _ ∧ _ ∧ _ := by simpa [UnitCell.face] using same
      rfl
    · rw [same.generation]
      exact .perform (step.reporting _)

theorem save (step : Lockstep E F fits K) (u : TranslationUnit) (path : Bytes) :
    Alike K (u.save E path).run (u.save F path).run := by
  refine .settle fun p _ => step.read fun s t same => ?_
  rw [same.unit_raw]
  refine (Alike.perform (step.asking (.defaultSaveOptions _) rfl step.fits_nil)).next fun bits => ?_
  refine (Alike.perform (step.asking (.save _ p bits) rfl step.fits_nil)).next fun code => ?_
  split_ifs
  · exact step.tell _ (.throw _)
  · exact .perform (step.reporting _)

end Lockstep

end HandleGraph
