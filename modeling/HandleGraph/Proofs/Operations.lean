import HandleGraph.Graph.TranslationUnit
import HandleGraph.Proofs.Execution
import HandleGraph.Proofs.Holdings

/-! # What operations enter

Every operation of a graph enters a course in the books. Work that fails leaves the owners that there
were; work that succeeds leaves the owners in its result besides.
-/

namespace HandleGraph

variable {σ α : Type} {E : Engine σ} {w : World σ} {held : Multiset Owner}

/-! ## Owners come and go -/

/-- A question that makes nothing and ends nothing is only noted. -/
theorem ask_course {q : Query} (plain : (Call.asked q (ask E q w).1).passage? = none)
    (law : q.Obeys (w.books.heldBy held)) : Books.Course (w.books, held) ((ask E q w).2.books, held) :=
  .single (.call plain law)

theorem Index.clone_course {i : Index}
    (own : .index i ∈ held ∨ ∃ u, .unit u ∈ held ∧ u.index w = i) :
    Books.Course (w.books, held) ((i.clone w).2.books, .index i ::ₘ held) :=
  .single (.ownIndex own)

/-- An index is disposed with its last owner. -/
theorem Index.books_drop (i : Index) :
    (i.drop E w).2.books =
      if i.owners w = 1 then
        (w.books.countIndex i (· - 1)).log (.asked (.disposeIndex (i.raw w)) ())
      else w.books.countIndex i (· - 1) := by
  unfold drop
  change ((ite (i.owners w = 1) _ _ : Action σ Unit) _).2.books = _
  split <;> rfl

private theorem Index.drop_course (i : Index) :
    Books.Course (w.books, .index i ::ₘ held) ((i.drop E w).2.books, held) := by
  rw [books_drop]
  split
  · exact .single (.closeIndex ‹_›)
  · exact .single (.disownIndex ‹_›)

theorem TranslationUnit.clone_course {u : TranslationUnit} (own : .unit u ∈ held) :
    Books.Course (w.books, held) ((u.clone w).2.books, .unit u ::ₘ held) :=
  .single (.ownUnit own)

/-- A unit goes with its last owner, and gives up its share of the index after that. -/
theorem TranslationUnit.drop_course (u : TranslationUnit) :
    Books.Course (w.books, .unit u ::ₘ held) ((u.drop E w).2.books, held) := by
  unfold drop
  change Books.Course _ (((ite (u.owners w = 1) _ _ : Action σ Unit) _).2.books, held)
  split
  · exact (Relation.ReflTransGen.single (.closeUnit ‹_›)).trans (Index.drop_course _)
  · exact .single (.disownUnit ‹_›)

private theorem TranslationUnit.dropAll_course (units : List TranslationUnit) :
    Books.Course (w.books, ↑(units.map Owner.unit) + held)
      ((units.forM (drop E) w).2.books, held) := by
  induction units generalizing w with
  | nil =>
    simp only [List.map_nil, Multiset.coe_nil, zero_add]
    exact .refl
  | cons u rest ih =>
    rw [List.map_cons, ← Multiset.cons_coe, Multiset.cons_add]
    exact u.drop_course.trans ih

/-- A cursor lets go of everything that it owns. -/
theorem Cursor.drop_course (c : Cursor) :
    Books.Course (w.books, c.owners + held) ((c.drop E w).2.books, held) :=
  TranslationUnit.dropAll_course c.owned

/-- Every object lets go of all its owners. -/
theorem Object.drop_course (o : Object) :
    Books.Course (w.books, o.owners + held) ((o.drop E w).2.books, held) := by
  cases o with
  | index i => exact i.drop_course
  | unit u => exact u.drop_course
  | file f => exact f.unit.drop_course
  | cursor c => exact c.drop_course
  | cursors s => exact s.unit.drop_course

/-! ## Strings -/

/-- The owner of a string that the engine has just answered. There is none for the null string. -/
def StringHandle.owners (s : StringHandle) : Multiset Owner := if s.isNull then 0 else {.string s false}

/-- A string is taken from the answer of a call. -/
theorem receive_course {call : Call} {s : StringHandle} {b : Books}
    (passed : call.passage? = if s.isNull then none else some (.stringMade s))
    (law : call.Obeys (b.heldBy held)) : Books.Course (b, held) (b.log call, s.owners + held) := by
  unfold StringHandle.owners
  split
  · rw [if_pos ‹_›] at passed
    rw [zero_add]
    exact .single (.call passed law)
  · rw [if_neg ‹_›] at passed
    exact .single (.receiveString passed law)

/-- A string is read and given back. -/
theorem takeOptionalString_course (s : StringHandle) :
    Books.Course (w.books, s.owners + held) ((takeOptionalString E s w).2.books, held) := by
  unfold takeOptionalString StringHandle.owners
  split
  · rw [zero_add]
    exact .refl
  · have valid : s.isNull = false := by simpa using ‹¬s.isNull = true›
    exact (Relation.ReflTransGen.single (.readString valid)).tail (.disposeString valid)

/-- The string is owned until it is disposed, whatever its text. -/
theorem takeString_course (held : Multiset Owner) (s : StringHandle) (operation : String) :
    Ensures (takeString E s operation) w fun _ after =>
      Books.Course (w.books, s.owners + held) (after.books, held) := by
  unfold takeString
  rw [Ensures.bind_iff, Ensures.perform_iff]
  have taken : Books.Course (w.books, s.owners + held) ((takeOptionalString E s w).2.books, held) :=
    takeOptionalString_course s
  cases (takeOptionalString E s w).1 <;> exact taken

/-! ## Attempts -/

/-- Work that leaves the owners there were, whatever its result. -/
def Keeps (work : Attempt σ α) (w : World σ) (held : Multiset Owner) : Prop :=
  Ensures work w fun _ after => Books.Course (w.books, held) (after.books, held)

/-- Work that leaves the owners there were and besides those in its result, of which something holds. -/
def Enters (work : Attempt σ α) (w : World σ) (held : Multiset Owner) (owners : α → Multiset Owner)
    (good : Books → α → Prop) : Prop :=
  Ensures work w fun result after => match result with
    | .ok a => Books.Course (w.books, held) (after.books, owners a + held) ∧ good after.books a
    | .error _ => Books.Course (w.books, held) (after.books, held)

/-- Work that enters something has either done so, or has failed and owns no more than before. -/
theorem Enters.cases {work : Attempt σ α} {owners : α → Multiset Owner} {good : Books → α → Prop}
    (enters : Enters work w held owners good) :
    (∃ a after, work.run w = (.ok a, after) ∧
      Books.Course (w.books, held) (after.books, owners a + held) ∧ good after.books a) ∨
    ∃ e after, work.run w = (.error e, after) ∧ Books.Course (w.books, held) (after.books, held) := by
  unfold Enters Ensures at enters
  rcases ran : work.run w with ⟨e | a, after⟩ <;> rw [ran] at enters
  · exact .inr ⟨e, after, rfl, enters⟩
  · exact .inl ⟨a, after, rfl, enters⟩

/-- A new index is owned once. -/
theorem Index.create_enters (options : IndexOptions) :
    Enters (create E options) w held (fun i => {.index i}) fun _ _ => True := by
  simp only [Enters, create, Ensures.bind_iff, Ensures.perform_iff]
  split_ifs with absent
  · exact .single (.call (if_pos absent) trivial)
  · exact ⟨.single (.openIndex (Bool.eq_false_iff.mpr absent)), trivial⟩

/-- A call that made a unit of an index is followed by a cell for the unit. -/
theorem Books.allocate_course {b : Books} {i : Index} (own : .index i ∈ held) {call : Call}
    {raw : UnitHandle} (made : call.passage? = some (.unitMade raw (i.raw b)))
    (law : call.Obeys (b.heldBy held)) :
    Books.Course (b, held)
      (((b.log call).countIndex i (· + 1)).addUnit raw i, .unit ⟨b.units.length⟩ ::ₘ held) := by
  have same (j : Index) : j.raw (b.countIndex i (· + 1)) = j.raw b := World.raw_countIndex b i j _
  have implies : (b.heldBy held).Implies ((b.countIndex i (· + 1)).heldBy (.index i ::ₘ held)) :=
    { World.heldBy_implies b (Multiset.subset_cons held (.index i)) with
      index := fun ⟨j, own, raw⟩ => ⟨j, Multiset.mem_cons_of_mem own, (same j).trans raw⟩ }
  have madeOf : call.passage? = some (.unitMade raw (i.raw (b.countIndex i (· + 1)))) := by rw [same, made]
  exact (Relation.ReflTransGen.single (.ownIndex (.inl own))).tail (.openUnit madeOf (law.mono implies))

private theorem known_allocate (i : Index) {raw : UnitHandle} :
    (TranslationUnit.allocate raw i w).1.cell < (TranslationUnit.allocate raw i w).2.units.length := by
  change w.units.length < (w.units ++ [_]).length
  simp

/-- A parsed unit is owned once, and holds a share of its index. -/
theorem Index.parse_enters {i : Index} (own : .index i ∈ held) (path : Bytes) (args : List String)
    (unsaved : List UnsavedFile) (options : ParseOptions) :
    Enters (i.parse E path args unsaved options) w held (fun u => {.unit u})
      fun b u => u.cell < b.units.length := by
  simp only [Enters, parse, Ensures.bind_iff, Ensures.perform_iff, Ensures.settle_iff, Ensures.get_iff]
  cases Marshal.path path <;> try exact .refl
  cases Marshal.args args <;> try exact .refl
  cases Marshal.unsaved unsaved <;> try exact .refl
  simp only
  split_ifs with absent
  · exact .single (.call (if_pos absent) ⟨i, own, rfl⟩)
  · exact ⟨Books.allocate_course own (if_neg absent) ⟨i, own, rfl⟩, known_allocate i⟩

theorem Index.read_enters {i : Index} (own : .index i ∈ held) (path : Bytes) :
    Enters (i.read E path) w held (fun u => {.unit u}) fun b u => u.cell < b.units.length := by
  simp only [Enters, read, Ensures.bind_iff, Ensures.perform_iff, Ensures.settle_iff, Ensures.get_iff]
  cases Marshal.path path <;> try exact .refl
  simp only
  split_ifs with absent
  · exact .single (.call (if_pos absent) ⟨i, own, rfl⟩)
  · exact ⟨Books.allocate_course own (if_neg absent) ⟨i, own, rfl⟩, known_allocate i⟩

/-- A private index is disposed with the last unit made from it, or at once when there is none. -/
theorem Index.withPrivate_enters {work : Index → Attempt σ TranslationUnit}
    (enters : ∀ i w held, .index i ∈ held →
      Enters (work i) w held (fun u => {.unit u}) fun b u => u.cell < b.units.length) :
    Enters (withPrivate E work) w held (fun u => {.unit u}) fun b u => u.cell < b.units.length := by
  apply Ensures.bind (create_enters {}) (fun _ _ entered => entered)
  rintro i middle ⟨opened, _⟩
  rw [Ensures.bind_iff, Ensures.caught_iff]
  apply (enters i middle (.index i ::ₘ held) (Multiset.mem_cons_self _ _)).mono
  rintro (e | u) last worked
  · exact (opened.trans worked).trans i.drop_course
  · obtain ⟨worked, known⟩ := worked
    rw [Multiset.add_cons] at worked
    have dropped : Books.Course _ ((i.drop E last).2.books, {.unit u} + held) := i.drop_course
    refine ⟨(opened.trans worked).trans dropped, known.trans_le ?_⟩
    exact (Books.Extends.course dropped).units_length

/-! ## Translation units and files -/

namespace Cursor

theorem make_course {u : TranslationUnit} (own : .unit u ∈ held) {raw : CursorHandle}
    {generation : UInt64} :
    Books.Course (w.books, held)
      ((make raw u generation w).2.books, (make raw u generation w).1.owners + held) :=
  .single (.ownUnit own)

/-- A cursor made from an answer about a unit is rooted there. -/
theorem rooted_make {u : TranslationUnit} {raw : CursorHandle} (known : u.cell < w.units.length)
    (valid : raw.isNull = false) (source : CursorOf w.calls (u.raw w) raw) {generation : UInt64} :
    (make raw u generation w).1.Rooted (make raw u generation w).2.books u generation := by
  apply Rooted.mono (.course (make_course (Multiset.mem_singleton_self (Owner.unit u))))
  refine .position ⟨rfl, rfl, known, valid, source⟩ fun l c remembered => ?_
  cases l <;> cases remembered

end Cursor

namespace TranslationUnit

variable {u : TranslationUnit}

theorem spelling_keeps (own : .unit u ∈ held) : Keeps (u.spelling E) w held := by
  simp only [Keeps, spelling, Ensures.bind_iff, Ensures.perform_iff, Ensures.get_iff]
  have asked : Books.Course (w.books, held) ((ask E (.unitSpelling (u.raw w)) w).2.books, _) :=
    receive_course rfl ⟨u, own, rfl⟩
  apply (takeString_course held _ _).mono
  intro result after taken
  cases result <;> exact asked.trans taken

/-- A root cursor is of the current generation. -/
theorem root_enters (own : .unit u ∈ held) (known : u.cell < w.units.length) :
    Enters (u.root E) w held Cursor.owners fun b c => c.Rooted b u (u.generation w) := by
  simp only [Enters, root, Ensures.bind_iff, Ensures.perform_iff, Ensures.get_iff]
  have asked : Books.Course (w.books, held) ((ask E (.rootCursor (u.raw w)) w).2.books, held) :=
    ask_course rfl ⟨u, own, rfl⟩
  split_ifs with absent
  · exact asked
  · refine ⟨asked.trans (Cursor.make_course own), ?_⟩
    exact Cursor.rooted_make (w := (ask E (.rootCursor (u.raw w)) w).2) known
      (Bool.eq_false_iff.mpr absent) (.root List.mem_concat_self)

/-- A file that is found holds a share of its unit. -/
theorem getFile_enters (own : .unit u ∈ held) (known : u.cell < w.units.length) (path : Bytes) :
    Enters (u.getFile E path) w held (fun f => {.unit f.unit}) fun b f => f.Sound b := by
  simp only [Enters, getFile, Ensures.bind_iff, Ensures.perform_iff, Ensures.settle_iff, Ensures.get_iff]
  cases Marshal.path path with
  | error e => exact .refl
  | ok nativePath =>
    have asked : Books.Course (w.books, held) ((ask E (.getFile (u.raw w) nativePath) w).2.books, held) :=
      ask_course rfl ⟨u, own, rfl⟩
    simp only
    split_ifs with absent
    · exact asked
    · have cloned : Books.Course _ _ := asked.trans (clone_course own)
      refine ⟨cloned, File.Sound.mono (.course (clone_course own)) ?_⟩
      exact ⟨known, Bool.eq_false_iff.mpr absent, _, List.mem_concat_self⟩

theorem save_keeps (own : .unit u ∈ held) (path : Bytes) : Keeps (u.save E path) w held := by
  simp only [Keeps, save, Ensures.bind_iff, Ensures.perform_iff, Ensures.settle_iff, Ensures.get_iff]
  cases Marshal.path path with
  | error e => exact .refl
  | ok nativePath =>
    have asked : Books.Course (w.books, held) ((ask E (.defaultSaveOptions (u.raw w)) w).2.books, held) :=
      ask_course rfl ⟨u, own, rfl⟩
    have saved (middle : World σ) (bits : UInt32) (same : u.raw middle = u.raw w) :
        Books.Course (middle.books, held) ((ask E (.save (u.raw w) nativePath bits) middle).2.books, held) :=
      ask_course rfl ⟨u, own, same⟩
    simp only
    split_ifs <;> exact asked.trans (saved _ _ rfl)

private theorem reparseBits_course (own : .unit u ∈ held) (options : Option ReparseOptions) :
    Books.Course (w.books, held) ((u.reparseBits E options w).2.books, held) := by
  cases options with
  | some options => exact .refl
  | none => exact ask_course rfl ⟨u, own, rfl⟩

/-- A reparse enters its calls. When it succeeds there is a new generation of the unit besides. -/
theorem reparse_enters (own : .unit u ∈ held) (unsaved : List UnsavedFile)
    (options : Option ReparseOptions) :
    Ensures (u.reparse E unsaved options) w fun result after => match result with
      | .ok _ => ∃ b, Books.Course (w.books, held) (b, held) ∧ after.books = b.renew u
      | .error _ => Books.Course (w.books, held) (after.books, held) := by
  simp only [reparse, Ensures.bind_iff, Ensures.perform_iff, Ensures.settle_iff, Ensures.get_iff]
  cases Marshal.unsaved unsaved with
  | error e => exact .refl
  | ok nativeUnsaved =>
    have prepared := reparseBits_course (E := E) (w := w) own options
    have asked : Books.Course (w.books, held) ((ask E (.reparse (u.raw (u.reparseBits E options w).2)
        nativeUnsaved (u.reparseBits E options w).1) (u.reparseBits E options w).2).2.books, held) :=
      prepared.trans (ask_course rfl ⟨u, own, rfl⟩)
    simp only
    split_ifs with failed
    · exact asked
    · exact ⟨_, asked, rfl⟩

end TranslationUnit

namespace File

variable {f : File}

theorem name_keeps (own : .unit f.unit ∈ held) (sound : f.Sound w.books) : Keeps (f.name E) w held := by
  simp only [Keeps, name, Ensures.bind_iff, Ensures.perform_iff]
  have asked : Books.Course (w.books, held) ((ask E (.fileName f.raw) w).2.books, _) :=
    receive_course rfl ⟨sound.valid, f.unit, own, sound.source⟩
  apply (takeString_course held _ _).mono
  intro result after taken
  cases result <;> exact asked.trans taken

theorem time_course (own : .unit f.unit ∈ held) (sound : f.Sound w.books) :
    Books.Course (w.books, held) ((f.time E w).2.books, held) :=
  ask_course rfl ⟨sound.valid, f.unit, own, sound.source⟩

theorem display_course (own : .unit f.unit ∈ held) (sound : f.Sound w.books) :
    Books.Course (w.books, held) ((f.display E w).2.books, held) := by
  have same : (f.display E w).2 = ((f.name E).run w).2 := by
    rw [display, bind_apply]
    cases ((f.name E).run w).1 <;> rfl
  rw [same]
  exact name_keeps own sound

theorem describe_course (own : .unit f.unit ∈ held) (sound : f.Sound w.books) :
    Books.Course (w.books, held) ((f.describe E w).2.books, held) :=
  display_course own sound

end File

end HandleGraph
