import HandleGraph.Clang.Binding
import HandleGraph.Proofs.Lockstep
import Mathlib.Algebra.Group.Nat.Defs
import Mathlib.Data.List.Forall2

/-! # Calls of the C interface that stand for queries

Which call of the C interface stands for a query, and when its result stands for the answer: the fields of
structures are the same one by one, a truth value is any integer that is zero or not, counts and lengths
are those of the lists. The binding makes the call that stands for a query and gives back the answer that
the result stands for.
-/

namespace HandleGraph.Clang

variable {τ : Type}

/-- The structure of a cursor has the cursor's fields. -/
structure SameCursor (c : CursorHandle) (x : CXCursor) : Prop where
  kind : x.kind = c.kind
  xdata : x.xdata = c.xdata
  data0 : x.data0 = c.data0
  data1 : x.data1 = c.data1
  data2 : x.data2 = c.data2

/-- The structure of a string has the handle's fields. -/
structure SameString (s : StringHandle) (x : CXString) : Prop where
  data : x.data = s.data
  flags : x.privateFlags = s.flags

def MeansTruth (b : Bool) (n : Int32) : Prop := b = true ↔ n ≠ 0

instance (b : Bool) (n : Int32) : Decidable (MeansTruth b n) := inferInstanceAs (Decidable (_ ↔ _))

/-- The structure of an unsaved file has the file's path, contents and number of bytes. -/
structure SameFile (f : NativeUnsavedFile) (x : CXUnsavedFile) : Prop where
  path : x.filename = f.path
  contents : x.contents = f.contents
  length : x.length = UInt64.ofNat f.contents.length

/-- A pointer and a count that pass on unsaved files in their order. Without files the pointer is null. -/
structure SameFiles (files : List NativeUnsavedFile) (pointer : Option (List CXUnsavedFile)) (count : UInt32) :
    Prop where
  count : count.toNat = files.length
  null : files = [] → pointer = none
  files : files ≠ [] → ∃ structures, pointer = some structures ∧ List.Forall₂ SameFile files structures

/-- A query, the call that stands for it, and when a result stands for an answer. -/
inductive Translates : (q : Query) → (f : Entry) → (q.Answer → f.Result → Prop) → Prop
  | createIndex {options : IndexOptions} {exclude display : Int32}
      (excludes : exclude = if options.excludeDeclarationsFromPch then 1 else 0)
      (displays : display = if options.displayDiagnostics then 1 else 0) :
      Translates (.createIndex options) (.createIndex exclude display) fun i a => a = i.address
  | disposeIndex (i : IndexHandle) : Translates (.disposeIndex i) (.disposeIndex i.address) fun _ _ => True
  | parse (i : IndexHandle) (path : CString) {args : List CString} {count : Int32}
      {files : List NativeUnsavedFile} {pointer : Option (List CXUnsavedFile)} {filesCount : UInt32}
      (options : UInt32) (counted : count.toInt = args.length) (same : SameFiles files pointer filesCount) :
      Translates (.parse i path args files options)
        (.parseTranslationUnit i.address path args count pointer filesCount options) fun u a => a = u.address
  | load (i : IndexHandle) (path : CString) :
      Translates (.load i path) (.createTranslationUnit i.address path) fun u a => a = u.address
  | defaultReparseOptions (u : UnitHandle) :
      Translates (.defaultReparseOptions u) (.defaultReparseOptions u.address) fun bits n => n = bits
  | reparse (u : UnitHandle) {files : List NativeUnsavedFile} {pointer : Option (List CXUnsavedFile)}
      {filesCount : UInt32} (options : UInt32) (same : SameFiles files pointer filesCount) :
      Translates (.reparse u files options) (.reparseTranslationUnit u.address filesCount pointer options)
        fun status n => n = status
  | defaultSaveOptions (u : UnitHandle) :
      Translates (.defaultSaveOptions u) (.defaultSaveOptions u.address) fun bits n => n = bits
  | save (u : UnitHandle) (path : CString) (options : UInt32) :
      Translates (.save u path options) (.saveTranslationUnit u.address path options) fun status n => n = status
  | disposeUnit (u : UnitHandle) :
      Translates (.disposeUnit u) (.disposeTranslationUnit u.address) fun _ _ => True
  | unitSpelling (u : UnitHandle) :
      Translates (.unitSpelling u) (.getTranslationUnitSpelling u.address) SameString
  | rootCursor (u : UnitHandle) : Translates (.rootCursor u) (.getTranslationUnitCursor u.address) SameCursor
  | getFile (u : UnitHandle) (path : CString) :
      Translates (.getFile u path) (.getFile u.address path) fun file a => a = file.address
  | fileName (file : FileHandle) : Translates (.fileName file) (.getFileName file.address) SameString
  | fileTime (file : FileHandle) : Translates (.fileTime file) (.getFileTime file.address) fun time n => n = time
  | readString {s : StringHandle} {x : CXString} (same : SameString s x) (valid : s.isNull = false) :
      Translates (.readString s) (.getCString x) fun text c => c.map CString.text = text
  | disposeString {s : StringHandle} {x : CXString} (same : SameString s x) :
      Translates (.disposeString s) (.disposeString x) fun _ _ => True
  | equalCursors {a b : CursorHandle} {x y : CXCursor} (first : SameCursor a x) (second : SameCursor b y) :
      Translates (.equalCursors a b) (.equalCursors x y) MeansTruth
  | hash {c : CursorHandle} {x : CXCursor} (same : SameCursor c x) :
      Translates (.hash c) (.hashCursor x) fun word n => n = word
  | link (l : Link) {c : CursorHandle} {x : CXCursor} (same : SameCursor c x) :
      Translates (.link l c) (.link l x) SameCursor
  | text (t : CursorText) {c : CursorHandle} {x : CXCursor} (same : SameCursor c x) :
      Translates (.text t c) (.text t x) SameString
  | test (t : CursorTest) {c : CursorHandle} {x : CXCursor} (same : SameCursor c x) :
      Translates (.test t c) (.test t x) MeansTruth
  | argumentCount {c : CursorHandle} {x : CXCursor} (same : SameCursor c x) :
      Translates (.argumentCount c) (.getNumArguments x) fun count n => n = count
  | argument {c : CursorHandle} {x : CXCursor} (same : SameCursor c x) (index : UInt32) :
      Translates (.argument c index) (.getArgument x index) SameCursor
  | bitWidth {c : CursorHandle} {x : CXCursor} (same : SameCursor c x) :
      Translates (.bitWidth c) (.getFieldDeclBitWidth x) fun width n => n = width

/-- A visitor at the C border that answers as a visitor does. -/
def SameVisitor (visitor : Visitor) (callback : CXVisitor) : Prop :=
  ∀ c x, SameCursor c x → callback x = match visitor c with
    | .stop => visitBreak
    | .proceed => visitContinue

/-- A library whose entry points answer as an engine does, from states that belong together. -/
structure AnswersAs {σ : Type} (L : Library τ) (E : Engine σ) (R : τ → σ → Prop) : Prop where
  call : ∀ {q f same}, Translates q f same → ∀ {t s}, R t s →
    same (E.answer q s).1 (L.call f t).1 ∧ R (L.call f t).2 (E.answer q s).2
  children : ∀ {c x visitor callback}, SameCursor c x → SameVisitor visitor callback → ∀ {t s}, R t s →
    List.Forall₂ SameCursor (E.children c visitor s).1 (L.children x callback t).1 ∧
      R (L.children x callback t).2 (E.children c visitor s).2

/-! ## The binding -/

theorem sameCursor_toCX (c : CursorHandle) : SameCursor c (toCX c) := ⟨rfl, rfl, rfl, rfl, rfl⟩

theorem SameCursor.ofCX_eq {c : CursorHandle} {x : CXCursor} (same : SameCursor c x) : ofCX x = c := by
  rw [ofCX, same.kind, same.xdata, same.data0, same.data1, same.data2]

theorem SameCursor.eq_toCX {c : CursorHandle} {x : CXCursor} (same : SameCursor c x) : x = toCX c := by
  rw [← same.ofCX_eq, toCX_ofCX]

theorem sameString_toCXString (s : StringHandle) : SameString s (toCXString s) := ⟨rfl, rfl⟩

private theorem SameString.ofCXString_eq {s : StringHandle} {x : CXString} (same : SameString s x) :
    ofCXString x = s := by
  rw [ofCXString, same.data, same.flags]

theorem SameString.eq_toCXString {s : StringHandle} {x : CXString} (same : SameString s x) : x = toCXString s := by
  rw [toCXString, ← same.data, ← same.flags]

theorem meansTruth_toCInt (b : Bool) : MeansTruth b (toCInt b) := by cases b <;> decide

private theorem MeansTruth.eq {b : Bool} {n : Int32} (means : MeansTruth b n) : (n != 0) = b := by
  rw [Bool.eq_iff_iff, bne_iff_ne]
  exact means.symm

private theorem sameFiles (files : List NativeUnsavedFile) (few : files.length < 2 ^ 31) :
    SameFiles files (unsavedPointer files) (unsavedCount files) where
  count := UInt32.toNat_ofNat_of_lt' (Nat.lt_trans few (by decide))
  null empty := by rw [empty]; rfl
  files := by
    intro some
    have pointer : unsavedPointer files = Option.some (files.map toCXUnsavedFile) := by
      rw [unsavedPointer, if_neg (by simpa using some)]
    refine ⟨_, pointer, ?_⟩
    rw [List.forall₂_map_right_iff, List.forall₂_same]
    exact fun f _ => ⟨rfl, rfl, rfl⟩

/-- Lists whose lengths fit the integers of the C interface. -/
def FitInterface (lists : List CString × List NativeUnsavedFile) : Prop :=
  lists.1.length < 2 ^ 31 ∧ lists.2.length < 2 ^ 31

/-- A query is answered through the one call that stands for it. -/
theorem answer_translates (L : Library τ) (q : Query) (fit : FitInterface q.lists)
    (readable : ∀ s, q = .readString s → s.isNull = false) :
    ∃ f same, Translates q f same ∧ ∀ linked : Linked τ,
      (∀ a, same a (L.call f linked.library).1 → (answer L q linked).1 = a) ∧
        (answer L q linked).2 =
          { linked with library := (L.call f linked.library).2, calls := linked.calls ++ [.called f] } := by
  cases q with
  | createIndex options =>
    exact ⟨_, _, .createIndex rfl rfl, fun linked => ⟨fun a same => congrArg IndexHandle.mk same, rfl⟩⟩
  | disposeIndex i => exact ⟨_, _, .disposeIndex i, fun linked => ⟨fun _ _ => rfl, rfl⟩⟩
  | parse i path args files options =>
    exact ⟨_, _, .parse i path options (Int32.toInt_ofNat_of_lt fit.1) (sameFiles files fit.2),
      fun linked => ⟨fun a same => congrArg UnitHandle.mk same, rfl⟩⟩
  | load i path => exact ⟨_, _, .load i path, fun linked => ⟨fun a same => congrArg UnitHandle.mk same, rfl⟩⟩
  | defaultReparseOptions u => exact ⟨_, _, .defaultReparseOptions u, fun linked => ⟨fun _ same => same, rfl⟩⟩
  | reparse u files options =>
    exact ⟨_, _, .reparse u options (sameFiles files fit.2), fun linked => ⟨fun _ same => same, rfl⟩⟩
  | defaultSaveOptions u => exact ⟨_, _, .defaultSaveOptions u, fun linked => ⟨fun _ same => same, rfl⟩⟩
  | save u path options => exact ⟨_, _, .save u path options, fun linked => ⟨fun _ same => same, rfl⟩⟩
  | disposeUnit u => exact ⟨_, _, .disposeUnit u, fun linked => ⟨fun _ _ => rfl, rfl⟩⟩
  | unitSpelling u => exact ⟨_, _, .unitSpelling u, fun linked => ⟨fun _ same => same.ofCXString_eq, rfl⟩⟩
  | rootCursor u => exact ⟨_, _, .rootCursor u, fun linked => ⟨fun _ same => same.ofCX_eq, rfl⟩⟩
  | getFile u path => exact ⟨_, _, .getFile u path, fun linked => ⟨fun a same => congrArg FileHandle.mk same, rfl⟩⟩
  | fileName file => exact ⟨_, _, .fileName file, fun linked => ⟨fun _ same => same.ofCXString_eq, rfl⟩⟩
  | fileTime file => exact ⟨_, _, .fileTime file, fun linked => ⟨fun _ same => same, rfl⟩⟩
  | readString s =>
    have valid := readable s rfl
    refine ⟨_, _, .readString (sameString_toCXString s) valid, fun linked => ?_⟩
    rw [answer, readString, valid]
    exact ⟨fun _ same => same, rfl⟩
  | disposeString s => exact ⟨_, _, .disposeString (sameString_toCXString s), fun linked => ⟨fun _ _ => rfl, rfl⟩⟩
  | equalCursors a b =>
    exact ⟨_, _, .equalCursors (sameCursor_toCX a) (sameCursor_toCX b), fun linked => ⟨fun _ same => same.eq, rfl⟩⟩
  | hash c => exact ⟨_, _, .hash (sameCursor_toCX c), fun linked => ⟨fun _ same => same, rfl⟩⟩
  | link l c => exact ⟨_, _, .link l (sameCursor_toCX c), fun linked => ⟨fun _ same => same.ofCX_eq, rfl⟩⟩
  | text t c => exact ⟨_, _, .text t (sameCursor_toCX c), fun linked => ⟨fun _ same => same.ofCXString_eq, rfl⟩⟩
  | test t c => exact ⟨_, _, .test t (sameCursor_toCX c), fun linked => ⟨fun _ same => same.eq, rfl⟩⟩
  | argumentCount c => exact ⟨_, _, .argumentCount (sameCursor_toCX c), fun linked => ⟨fun _ same => same, rfl⟩⟩
  | argument c index =>
    exact ⟨_, _, .argument (sameCursor_toCX c) index, fun linked => ⟨fun _ same => same.ofCX_eq, rfl⟩⟩
  | bitWidth c => exact ⟨_, _, .bitWidth (sameCursor_toCX c), fun linked => ⟨fun _ same => same, rfl⟩⟩

/-! ## Walks -/

/-- The trampoline hands each structure to the visitor and gives its answer back as it is. -/
theorem sameVisitor_callback (visitor : Visitor) : SameVisitor visitor (callback visitor) := by
  intro c x same
  obtain rfl := same.ofCX_eq
  cases answer : visitor (ofCX x) <;> simp only [callback, answer]

/-- Structures that were shown one by one translate back to the handles. -/
theorem map_ofCX {shown : List CursorHandle} {structures : List CXCursor}
    (same : List.Forall₂ SameCursor shown structures) : structures.map ofCX = shown := by
  induction same with
  | nil => rfl
  | cons first _ ih => rw [List.map_cons, first.ofCX_eq, ih]

/-- The library shows a visitor the same children and is stopped at the same one. -/
theorem SameVisitor.walk {visitor : Visitor} {callback : CXVisitor} (same : SameVisitor visitor callback)
    {offered : List CursorHandle} {structures : List CXCursor} (alike : List.Forall₂ SameCursor offered structures) :
    List.Forall₂ SameCursor (visitor.walk offered).shown (callback.walk structures).1 ∧
      (callback.walk structures).2 = (visitor.walk offered).stopped := by
  induction alike with
  | nil => exact ⟨.nil, rfl⟩
  | @cons c x rest structures first later ih =>
    have answered := same c x first
    rw [Visitor.walk, CXVisitor.walk]
    cases visited : visitor c with
    | stop =>
      rw [visited] at answered
      rw [if_pos answered]
      exact ⟨.cons first .nil, rfl⟩
    | proceed =>
      rw [visited] at answered
      rw [if_neg (by rw [answered]; decide)]
      exact ⟨.cons first ih.1, ih.2⟩

end HandleGraph.Clang
