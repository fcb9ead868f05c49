import HandleGraph.Proofs.CursorTable
import HandleGraph.Proofs.LockstepSessions

/-! # Runs that differ in questions about cursors

A world shadows another one when both look the same, have disposed the same, and the engine has been asked
about cursors at least as often and in the same order. When the other answers of an engine do not depend on
what it has been asked about cursors, worlds go on together.
-/

namespace HandleGraph

variable {σ ν α : Type}

/-! ## Calls -/

def Query.aboutCursor : Query → Bool
  | .text .. => true
  | q => q.onCursor

def Query.disposes : Query → Bool
  | .disposeIndex _ | .disposeUnit _ => true
  | _ => false

/-- The entry point and the cursors of a call about cursors. A walk is told by its cursor. -/
def Call.cursorQuery? : Call → Option (Query ⊕ CursorHandle)
  | .asked q _ => if q.aboutCursor then some (.inl q) else none
  | .walked c _ => some (.inr c)

def Call.disposal? : Call → Option Query
  | .asked q _ => if q.disposes then some q else none
  | .walked .. => none

def cursorQueries (calls : List Call) : List (Query ⊕ CursorHandle) := calls.filterMap Call.cursorQuery?

def disposals (calls : List Call) : List Query := calls.filterMap Call.disposal?

/-! ## Texts -/

/-- Read a string of an engine and give it back. -/
def Engine.readOut (E : Engine σ) (s : StringHandle) (engine : σ) : Option String × σ :=
  if s.isNull then (none, engine)
  else
    let (text, engine) := E.answer (.readString s) engine
    (text, (E.answer (.disposeString s) engine).2)

namespace TextSource

def onCursor : TextSource → Bool
  | .cursor .. => true
  | .unit _ | .file _ => false

/-- A text of an engine, the string that the engine hands out for it left aside. -/
def fetch (E : Engine σ) (source : TextSource) (engine : σ) : Option String × σ :=
  let (s, engine) := source.handOut E engine
  E.readOut s engine

structure Copies (source : TextSource) (calls : List Call) : Prop where
  queries : cursorQueries calls = match source with
    | .cursor t raw => [.inl (.text t raw)]
    | .unit _ | .file _ => []
  disposals : disposals calls = []

/-- Copying a text is to fetch it, with calls that are recorded. -/
theorem copy_eq (E : Engine σ) (source : TextSource) (w : World σ) :
    (source.copy E w).1 = (source.fetch E w.engine).1 ∧ ∃ made, source.Copies made ∧
      (source.copy E w).2 = { w with engine := (source.fetch E w.engine).2, calls := w.calls ++ made } := by
  have taken (s : StringHandle) (w : World σ) :
      (takeOptionalString E s w).1 = (E.readOut s w.engine).1 ∧ ∃ made, cursorQueries made = [] ∧
        HandleGraph.disposals made = [] ∧ (takeOptionalString E s w).2 =
          { w with engine := (E.readOut s w.engine).2, calls := w.calls ++ made } := by
    unfold takeOptionalString Engine.readOut
    split_ifs
    · exact ⟨rfl, [], rfl, rfl, by simp only [List.append_nil]; rfl⟩
    · refine ⟨rfl, [_, _], ?_, ?_, congrArg (World.mk _ _ _ · _) (List.append_assoc ..)⟩ <;> rfl
  have within (q : Query) (answer : q.Answer) (made : List Call) (engine : σ) :
      ({ ({ w with calls := w.calls ++ [.asked q answer] } : World σ) with
        engine, calls := (w.calls ++ [.asked q answer]) ++ made } : World σ) =
      { w with engine, calls := w.calls ++ .asked q answer :: made } := by
    simp only [List.append_assoc, List.singleton_append]
  cases source with
  | unit raw =>
    obtain ⟨text, made, queries, disposed, after⟩ :=
      taken (ask E (.unitSpelling raw) w).1 (ask E (.unitSpelling raw) w).2
    exact ⟨text, .asked (.unitSpelling raw) _ :: made, ⟨queries, disposed⟩, after.trans (within ..)⟩
  | file raw =>
    obtain ⟨text, made, queries, disposed, after⟩ := taken (ask E (.fileName raw) w).1 (ask E (.fileName raw) w).2
    exact ⟨text, .asked (.fileName raw) _ :: made, ⟨queries, disposed⟩, after.trans (within ..)⟩
  | cursor t raw =>
    obtain ⟨text, made, queries, disposed, after⟩ := taken (ask E (.text t raw) w).1 (ask E (.text t raw) w).2
    exact ⟨text, .asked (.text t raw) _ :: made, ⟨congrArg (List.cons _) queries, disposed⟩, after.trans (within ..)⟩

/-- Copying adds calls to those before it. -/
theorem calls_copy (E : Engine σ) (source : TextSource) (w : World σ) : w.calls <+: (source.copy E w).2.calls := by
  obtain ⟨-, made, -, after⟩ := source.copy_eq E w
  rw [after]
  exact List.prefix_append ..

end TextSource

/-- An engine of which only a part decides what it answers when it is not asked about cursors. Questions
about cursors leave that part as it is. -/
structure Indifferent (E : Engine σ) (view : σ → ν) : Prop where
  cursor : ∀ q s, q.onCursor = true → view (E.answer q s).2 = view s
  walk : ∀ c visitor s, view (E.children c visitor s).2 = view s
  cursorText : ∀ source s, source.onCursor = true → view (TextSource.fetch E source s).2 = view s
  other : ∀ q, q.isPlain = true → q.onCursor = false → ∀ {s t}, view s = view t →
    (E.answer q s).1 = (E.answer q t).1 ∧ view (E.answer q s).2 = view (E.answer q t).2
  text : ∀ source, source.onCursor = false → ∀ {s t}, view s = view t →
    (TextSource.fetch E source s).1 = (TextSource.fetch E source t).1 ∧
      view (TextSource.fetch E source s).2 = view (TextSource.fetch E source t).2

/-- A world that has come to the same as another one, and has asked about more cursors. -/
structure Shadows (view : σ → ν) (w v : World σ) : Prop where
  view : view w.engine = view v.engine
  cells : SameCells w v
  queries : (cursorQueries w.calls).Sublist (cursorQueries v.calls)
  disposals : disposals w.calls = disposals v.calls

/-- Worlds that shadow each other. -/
structure Coincide (view : σ → ν) (w v : World σ) : Prop where
  forth : Shadows view w v
  back : Shadows view v w

variable {view : σ → ν} {E : Engine σ} {T : CursorTable}

namespace Shadows

variable {w v u : World σ}

theorem refl (view : σ → ν) (w : World σ) : Shadows view w w := ⟨rfl, ⟨rfl, rfl⟩, List.Sublist.refl _, rfl⟩

theorem trans (first : Shadows view w v) (second : Shadows view v u) : Shadows view w u where
  view := first.view.trans second.view
  cells := ⟨first.cells.indexes.trans second.cells.indexes, first.cells.units.trans second.cells.units⟩
  queries := first.queries.trans second.queries
  disposals := first.disposals.trans second.disposals

/-- Worlds that differ in events and in the numbers of owners of units shadow each other. -/
theorem of_faces (engine : v.engine = w.engine) (indexes : v.indexes = w.indexes)
    (units : v.units.map UnitCell.face = w.units.map UnitCell.face) (calls : v.calls = w.calls) :
    Coincide view w v := by
  constructor
  · exact ⟨congrArg view engine.symm, ⟨indexes.symm, units.symm⟩, by rw [calls], by rw [calls]⟩
  · exact ⟨congrArg view engine, ⟨indexes, units⟩, by rw [calls], by rw [calls]⟩

/-- Both worlds make the same kind of calls. -/
theorem append {made made' : List Call} {engine engine' : σ} (shadows : Shadows view w v)
    (alike : view engine = view engine') (queries : cursorQueries made = cursorQueries made')
    (disposed : HandleGraph.disposals made = HandleGraph.disposals made') :
    Shadows view { w with engine, calls := w.calls ++ made }
      { v with engine := engine', calls := v.calls ++ made' } where
  view := alike
  cells := ⟨shadows.cells.indexes, shadows.cells.units⟩
  queries := by
    have kept := shadows.queries
    simp only [cursorQueries, List.filterMap_append] at kept queries ⊢
    exact kept.append (queries ▸ List.Sublist.refl _)
  disposals := by
    have kept := shadows.disposals
    simp only [HandleGraph.disposals, List.filterMap_append] at kept disposed ⊢
    rw [kept, disposed]

/-- More is asked about cursors. -/
theorem more (w : World σ) {made : List Call} {engine : σ} (alike : view w.engine = view engine)
    (disposed : HandleGraph.disposals made = []) :
    Shadows view w { w with engine, calls := w.calls ++ made } where
  view := alike
  cells := ⟨rfl, rfl⟩
  queries := by
    simp only [cursorQueries, List.filterMap_append]
    exact List.sublist_append_left _ _
  disposals := by
    simp only [HandleGraph.disposals, List.filterMap_append] at disposed ⊢
    rw [disposed, List.append_nil]

/-- Other questions are answered alike, as the engine shows the same of itself. -/
theorem ask_other (indifferent : Indifferent E view) (shadows : Shadows view w v) {q : Query} (plain : q.isPlain = true)
    (other : q.onCursor = false) :
    (ask E q w).1 = (ask E q v).1 ∧ Shadows view (ask E q w).2 (ask E q v).2 := by
  obtain ⟨answer, alike⟩ := indifferent.other q plain other shadows.view
  exact ⟨answer, shadows.append alike rfl rfl⟩

/-- Questions about cursors are answered alike, by the table. -/
theorem ask_about (indifferent : Indifferent E view) (shadows : Shadows view w v) {q : Query}
    (about : q.onCursor = true) (granted : T.Grants (ask E q w).2.calls) (granted' : T.Grants (ask E q v).2.calls) :
    (ask E q w).1 = (ask E q v).1 ∧ Shadows view (ask E q w).2 (ask E q v).2 := by
  have answer : (ask E q w).1 = T.answer q := granted.answer about
  have answer' : (ask E q v).1 = T.answer q := granted'.answer about
  refine ⟨answer.trans answer'.symm, shadows.append ?_ rfl rfl⟩
  change view (E.answer q w.engine).2 = view (E.answer q v.engine).2
  rw [indifferent.cursor q _ about, indifferent.cursor q _ about, shadows.view]

/-- Texts are copied alike, whether they are of cursors or not. -/
theorem copy (indifferent : Indifferent E view) (shadows : Shadows view w v) (source : TextSource)
    (granted : T.Grants (source.copy E w).2.calls) (granted' : T.Grants (source.copy E v).2.calls) :
    (source.copy E w).1 = (source.copy E v).1 ∧ Shadows view (source.copy E w).2 (source.copy E v).2 := by
  obtain ⟨text, made, copies, after⟩ := source.copy_eq E w
  obtain ⟨text', made', copies', after'⟩ := source.copy_eq E v
  have together (alike : view (source.fetch E w.engine).2 = view (source.fetch E v.engine).2) :
      Shadows view (source.copy E w).2 (source.copy E v).2 := by
    rw [after, after']
    exact shadows.append alike (copies.queries.trans copies'.queries.symm)
      (copies.disposals.trans copies'.disposals.symm)
  cases about : source.onCursor with
  | false =>
    obtain ⟨answer, alike⟩ := indifferent.text source about shadows.view
    exact ⟨text.trans (answer.trans text'.symm), together alike⟩
  | true =>
    refine ⟨?_, together ?_⟩
    · cases source with
      | cursor t raw => exact (copy_tabled t raw w granted).trans (copy_tabled t raw v granted').symm
      | _ => cases about
    · rw [indifferent.cursorText source _ about, indifferent.cursorText source _ about, shadows.view]

/-- Children are walked over alike. -/
theorem walk (indifferent : Indifferent E view) (shadows : Shadows view w v) (c : CursorHandle)
    (visitor : Visitor) (granted : T.Grants (walkChildren E c visitor w).2.calls)
    (granted' : T.Grants (walkChildren E c visitor v).2.calls) :
    (walkChildren E c visitor w).1 = (walkChildren E c visitor v).1 ∧
      Shadows view (walkChildren E c visitor w).2 (walkChildren E c visitor v).2 := by
  have walked : (walkChildren E c visitor w).1 = T.walk c := granted.walk
  have walked' : (walkChildren E c visitor v).1 = T.walk c := granted'.walk
  refine ⟨walked.trans walked'.symm, shadows.append ?_ rfl rfl⟩
  change view (E.children c visitor w.engine).2 = view (E.children c visitor v.engine).2
  rw [indifferent.walk, indifferent.walk, shadows.view]

end Shadows

theorem Coincide.refl (view : σ → ν) (w : World σ) : Coincide view w w := ⟨.refl view w, .refl view w⟩

theorem Coincide.trans {w v u : World σ} (first : Coincide view w v) (second : Coincide view v u) :
    Coincide view w u :=
  ⟨first.forth.trans second.forth, second.back.trans first.back⟩

/-- Runs that go on together as long as the engine answers by the table. -/
def shadowing (T : CursorTable) (view : σ → ν) : Coupling (World σ) (World σ) where
  granted := T.Grants
  closed := CursorTable.Grants.of_isPrefix
  rel := Shadows view

/-- What a graph does with an engine of the kind is alike in worlds that shadow one another. -/
theorem Indifferent.lockstep (indifferent : Indifferent E view) (inhabited : Nonempty σ) :
    Lockstep E E (fun _ => True) (shadowing T view) where
  inhabited := inhabited
  inhabited' := inhabited
  cells shadows := shadows.cells
  fits_nil := trivial
  asking q plain _ :=
    { grows := fun _ => List.prefix_append ..
      grows' := fun _ => List.prefix_append ..
      same := fun shadows granted granted' => by
        cases about : q.onCursor with
        | false => exact shadows.ask_other indifferent plain about
        | true => exact shadows.ask_about indifferent about granted granted' }
  copying source :=
    { grows := source.calls_copy E
      grows' := source.calls_copy E
      same := fun shadows => shadows.copy indifferent source }
  walking c visitor :=
    { grows := fun _ => List.prefix_append ..
      grows' := fun _ => List.prefix_append ..
      same := fun shadows => shadows.walk indifferent c visitor }
  reporting e := .quiet (fun _ => rfl) (fun _ => rfl) fun shadows =>
    ⟨rfl, shadows.view, ⟨shadows.cells.indexes, shadows.cells.units⟩, shadows.queries, shadows.disposals⟩
  indexes change shadows :=
    ⟨shadows.view, ⟨congrArg change shadows.cells.indexes, shadows.cells.units⟩, shadows.queries, shadows.disposals⟩
  units change faces shadows :=
    ⟨shadows.view, ⟨shadows.cells.indexes, faces _ _ shadows.cells.units⟩, shadows.queries, shadows.disposals⟩

end HandleGraph
