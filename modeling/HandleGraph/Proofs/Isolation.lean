import HandleGraph.Proofs.Bystanders

/-! # Engines that keep units apart

Two runs may call the same unit, its files and its cursors by different handles. A matching says which
handles stand for the same thing, one for one; as the runs go on it only grows.

An engine keeps units apart when what it answers about a unit depends on nothing but what it knows of that
unit: its source and its reparses. This is said with a relation between states in which the engine knows the
same of the matched units. Matched queries have matched answers in such states and lead to such states again,
and queries that spare the unit, which may be about anything else, make no difference to it.
-/

namespace HandleGraph

/-- The handles by which two runs call a unit, its index, and the files and cursors got from the unit. -/
structure Matching where
  unit : UnitHandle
  unit' : UnitHandle
  index : IndexHandle
  index' : IndexHandle
  file : FileHandle → FileHandle → Prop
  cursor : CursorHandle → CursorHandle → Prop
  file_unique : ∀ {f f' g g'}, file f f' → file g g' → (f = g ↔ f' = g')
  file_null : ∀ {f f'}, file f f' → f.isNull = f'.isNull
  cursor_unique : ∀ {c c' d d'}, cursor c c' → cursor d d' → (c = d ↔ c' = d')
  cursor_null : ∀ {c c'}, cursor c c' → c.isNull = c'.isNull
  cursor_kind : ∀ {c c'}, cursor c c' → c.kind = c'.kind
  null_cursor : cursor .null .null

namespace Matching

/-- No file and no cursor has been got yet. -/
def first (unit unit' : UnitHandle) (index index' : IndexHandle) : Matching where
  unit := unit
  unit' := unit'
  index := index
  index' := index'
  file _ _ := False
  cursor c c' := c = .null ∧ c' = .null
  file_unique := False.elim
  file_null := False.elim
  cursor_unique := by
    rintro c c' d d' ⟨rfl, rfl⟩ ⟨rfl, rfl⟩
    exact Iff.rfl
  cursor_null := by
    rintro c c' ⟨rfl, rfl⟩
    rfl
  cursor_kind := by
    rintro c c' ⟨rfl, rfl⟩
    rfl
  null_cursor := ⟨rfl, rfl⟩

/-- A matching of the same unit in which at least the same things are matched. -/
structure Grows (m m' : Matching) : Prop where
  unit : m.unit = m'.unit
  unit' : m.unit' = m'.unit'
  index : m.index = m'.index
  index' : m.index' = m'.index'
  file : ∀ {f f'}, m.file f f' → m'.file f f'
  cursor : ∀ {c c'}, m.cursor c c' → m'.cursor c c'

theorem Grows.refl (m : Matching) : m.Grows m := ⟨rfl, rfl, rfl, rfl, id, id⟩

theorem Grows.trans {m m' m'' : Matching} (first : m.Grows m') (second : m'.Grows m'') : m.Grows m'' :=
  ⟨first.unit.trans second.unit, first.unit'.trans second.unit', first.index.trans second.index,
    first.index'.trans second.index', second.file ∘ first.file, second.cursor ∘ first.cursor⟩

/-- The same query about the unit, or about a file or a cursor of it, in either run. With it comes what it
means that answers match. -/
inductive Asks (m : Matching) : (q q' : Query) → (Matching → q.Answer → q'.Answer → Prop) → Prop
  | reparseOptions : Asks m (.defaultReparseOptions m.unit) (.defaultReparseOptions m.unit') fun _ => Eq
  | reparse (files : List NativeUnsavedFile) (options : UInt32) :
      Asks m (.reparse m.unit files options) (.reparse m.unit' files options) fun _ => Eq
  | saveOptions : Asks m (.defaultSaveOptions m.unit) (.defaultSaveOptions m.unit') fun _ => Eq
  | save (path : CString) (options : UInt32) :
      Asks m (.save m.unit path options) (.save m.unit' path options) fun _ => Eq
  | root : Asks m (.rootCursor m.unit) (.rootCursor m.unit') fun m => m.cursor
  | getFile (path : CString) : Asks m (.getFile m.unit path) (.getFile m.unit' path) fun m => m.file
  | fileTime {f f' : FileHandle} (matched : m.file f f') : Asks m (.fileTime f) (.fileTime f') fun _ => Eq
  | equalCursors {a a' b b' : CursorHandle} (matched : m.cursor a a') (matched' : m.cursor b b') :
      Asks m (.equalCursors a b) (.equalCursors a' b') fun _ => Eq
  | hash {c c' : CursorHandle} (matched : m.cursor c c') : Asks m (.hash c) (.hash c') fun _ => Eq
  | link (l : Link) {c c' : CursorHandle} (matched : m.cursor c c') :
      Asks m (.link l c) (.link l c') fun m => m.cursor
  | test (t : CursorTest) {c c' : CursorHandle} (matched : m.cursor c c') :
      Asks m (.test t c) (.test t c') fun _ => Eq
  | argumentCount {c c' : CursorHandle} (matched : m.cursor c c') :
      Asks m (.argumentCount c) (.argumentCount c') fun _ => Eq
  | argument {c c' : CursorHandle} (matched : m.cursor c c') (index : UInt32) :
      Asks m (.argument c index) (.argument c' index) fun m => m.cursor
  | bitWidth {c c' : CursorHandle} (matched : m.cursor c c') : Asks m (.bitWidth c) (.bitWidth c') fun _ => Eq

/-- The same text of the unit, or of a file or a cursor of it, in either run. -/
inductive Copies (m : Matching) : TextSource → TextSource → Prop
  | unit : Copies m (.unit m.unit) (.unit m.unit')
  | file {f f' : FileHandle} (matched : m.file f f') : Copies m (.file f) (.file f')
  | cursor (t : CursorText) {c c' : CursorHandle} (matched : m.cursor c c') :
      Copies m (.cursor t c) (.cursor t c')

variable {m m' : Matching}

/-- Queries that match go on matching when more handles do. -/
theorem Asks.mono (grown : m.Grows m') {q q' : Query} {good : Matching → q.Answer → q'.Answer → Prop}
    (asks : m.Asks q q' good) : m'.Asks q q' good := by
  cases asks with
  | reparseOptions => rw [grown.unit, grown.unit']; exact .reparseOptions
  | reparse files options => rw [grown.unit, grown.unit']; exact .reparse files options
  | saveOptions => rw [grown.unit, grown.unit']; exact .saveOptions
  | save path options => rw [grown.unit, grown.unit']; exact .save path options
  | root => rw [grown.unit, grown.unit']; exact .root
  | getFile path => rw [grown.unit, grown.unit']; exact .getFile path
  | fileTime matched => exact .fileTime (grown.file matched)
  | equalCursors matched matched' => exact .equalCursors (grown.cursor matched) (grown.cursor matched')
  | hash matched => exact .hash (grown.cursor matched)
  | link l matched => exact .link l (grown.cursor matched)
  | test t matched => exact .test t (grown.cursor matched)
  | argumentCount matched => exact .argumentCount (grown.cursor matched)
  | argument matched index => exact .argument (grown.cursor matched) index
  | bitWidth matched => exact .bitWidth (grown.cursor matched)

/-- Answers that match go on matching. -/
theorem Asks.answers_mono {m₁ : Matching} (grown : m.Grows m') {q q' : Query}
    {good : Matching → q.Answer → q'.Answer → Prop} (asks : m₁.Asks q q' good) {a : q.Answer} {a' : q'.Answer}
    (answers : good m a a') : good m' a a' := by
  cases asks with
  | root | link | argument => exact grown.cursor answers
  | getFile => exact grown.file answers
  | _ => exact answers

/-- Sources of the same text stay so when more handles match. -/
theorem Copies.mono (grown : m.Grows m') {source source' : TextSource} (copies : m.Copies source source') :
    m'.Copies source source' := by
  cases copies with
  | unit => rw [grown.unit, grown.unit']; exact .unit
  | file matched => exact .file (grown.file matched)
  | cursor t matched => exact .cursor t (grown.cursor matched)

end Matching

/-! ## Calls of either run -/

def TextSource.call : TextSource → StringHandle → Call
  | .unit raw, s => .asked (.unitSpelling raw) s
  | .file raw, s => .asked (.fileName raw) s
  | .cursor t raw, s => .asked (.text t raw) s

/-- The same call in either run, with matching answers. -/
inductive Matching.Calls (m : Matching) : Call → Call → Prop
  | asked {q q' : Query} {good : Matching → q.Answer → q'.Answer → Prop} {a : q.Answer} {a' : q'.Answer}
      (asks : m.Asks q q' good) (answers : good m a a') : Calls m (.asked q a) (.asked q' a')
  | copied {source source' : TextSource} {s s' : StringHandle} (copies : m.Copies source source')
      (alike : s.isNull = s'.isNull) : Calls m (source.call s) (source'.call s')
  | read (s s' : StringHandle) (text : Option String) :
      Calls m (.asked (.readString s) text) (.asked (.readString s') text)
  | givenBack (s s' : StringHandle) : Calls m (.asked (.disposeString s) ()) (.asked (.disposeString s') ())
  | walked {c c' : CursorHandle} {walk walk' : Walk} (matched : m.cursor c c')
      (shown : List.Forall₂ m.cursor walk.shown walk'.shown) (stopped : walk.stopped = walk'.stopped) :
      Calls m (.walked c walk) (.walked c' walk')
  | disposed : Calls m (.asked (.disposeUnit m.unit) ()) (.asked (.disposeUnit m.unit') ())

theorem Matching.Calls.mono {m m' : Matching} (grown : m.Grows m') {call call' : Call} (calls : m.Calls call call') :
    m'.Calls call call' := by
  cases calls with
  | asked asks answers => exact .asked (asks.mono grown) (asks.answers_mono grown answers)
  | copied copies alike => exact .copied (copies.mono grown) alike
  | read => exact .read _ _ _
  | givenBack => exact .givenBack _ _
  | walked matched shown stopped => exact .walked (grown.cursor matched) (shown.imp fun _ _ => grown.cursor) stopped
  | disposed => rw [grown.unit, grown.unit']; exact .disposed

/-! ## Isolation -/

/-- The query saves nothing but to some paths. -/
def Query.SavesTo (paths : CString → Prop) : Query → Prop
  | .save _ path _ => paths path
  | _ => True

/-- What the engine answers about a unit depends on what it knows of that unit alone. `same m` says of two
states that the engine knows the same of the units that `m` matches. Others may save to some paths only. -/
structure Isolated {σ : Type} (E : Engine σ) (elsewhere : CString → Prop)
    (same : Matching → σ → σ → Prop) : Prop where
  answers : ∀ {m : Matching} {s t : σ} {q q' : Query} {good : Matching → q.Answer → q'.Answer → Prop},
    same m s t → m.Asks q q' good → ∃ m' : Matching, m.Grows m' ∧ same m' (E.answer q s).2 (E.answer q' t).2 ∧
      good m' (E.answer q s).1 (E.answer q' t).1
  /-- Either string is null or none is, and the texts that are read from them right away are the same. -/
  texts : ∀ {m : Matching} {s t : σ} {source source' : TextSource}, same m s t → m.Copies source source' →
    ∃ m' : Matching, m.Grows m' ∧ same m' (source.handOut E s).2 (source'.handOut E t).2 ∧
      (source.handOut E s).1.isNull = (source'.handOut E t).1.isNull ∧
      (E.answer (.readString (source.handOut E s).1) (source.handOut E s).2).1 =
        (E.answer (.readString (source'.handOut E t).1) (source'.handOut E t).2).1
  children : ∀ {m : Matching} {s t : σ} {c c' : CursorHandle}, same m s t → m.cursor c c' →
    ∃ m' : Matching, m.Grows m' ∧
      same m' (E.children c Cursor.untilNull s).2 (E.children c' Cursor.untilNull t).2 ∧
      List.Forall₂ m'.cursor (E.children c Cursor.untilNull s).1 (E.children c' Cursor.untilNull t).1
  left : ∀ {m : Matching} {s t : σ} {q : Query}, same m s t → q.Spares m.unit m.index →
    q.SavesTo elsewhere → same m (E.answer q s).2 t
  right : ∀ {m : Matching} {s t : σ} {q : Query}, same m s t → q.Spares m.unit' m.index' →
    q.SavesTo elsewhere → same m s (E.answer q t).2
  left_walk : ∀ {m : Matching} {s t : σ} {c : CursorHandle} {visitor : Visitor}, same m s t →
    same m (E.children c visitor s).2 t
  right_walk : ∀ {m : Matching} {s t : σ} {c : CursorHandle} {visitor : Visitor}, same m s t →
    same m s (E.children c visitor t).2

/-- Strings are about no unit. -/
theorem Isolated.strings {σ : Type} {E : Engine σ} {elsewhere : CString → Prop} {same : Matching → σ → σ → Prop}
    (isolated : Isolated E elsewhere same) {m : Matching} {e e' : σ} (alike : same m e e') (s s' : StringHandle) :
    same m (E.answer (.readString s) e).2 (E.answer (.readString s') e').2 ∧
      same m (E.answer (.disposeString s) e).2 (E.answer (.disposeString s') e').2 :=
  ⟨isolated.right (isolated.left alike trivial trivial) trivial trivial,
    isolated.right (isolated.left alike trivial trivial) trivial trivial⟩

end HandleGraph
