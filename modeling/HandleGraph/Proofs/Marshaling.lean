import HandleGraph.Graph.TranslationUnit
import HandleGraph.Proofs.Execution

/-! # What reaches the engine

Paths, compiler arguments and unsaved files are handed to the engine byte by byte as they were given, or
refused as a whole before it is called. They are refused for a NUL byte, and the refusal names the first
class of bytes that has one. The words of options and the contents of files are never looked into.
-/

namespace HandleGraph

/-- Bytes that must be free of NULs, with the name of what they are for. -/
structure Consignment where
  what : String
  items : List Bytes

def firstRefused (classes : List Consignment) : Option String :=
  (classes.find? fun c => c.items.any (0 ∈ ·)).map (·.what)

/-- Only classes that are free of NULs are refused nowhere. -/
theorem firstRefused_eq_none_iff {classes : List Consignment} :
    firstRefused classes = none ↔ ∀ c ∈ classes, ∀ bytes ∈ c.items, 0 ∉ bytes := by
  simp [firstRefused]

def pathBytes (path : Bytes) : Consignment := ⟨"path", [path]⟩

def argBytes (args : List String) : Consignment := ⟨"compiler argument", args.map Text.encode⟩

def unsavedBytes (files : List UnsavedFile) : Consignment :=
  ⟨"unsaved file path", files.map fun file => Text.encode file.path⟩

/-- C strings that spell these bytes, one for one. -/
def Spell (native : List CString) (items : List Bytes) : Prop := native.map (·.bytes) = items

/-- Files for the engine that pair the same paths with the same contents. -/
def PairUp (native : List NativeUnsavedFile) (files : List UnsavedFile) : Prop :=
  native.map (fun file => (file.path.bytes, file.contents)) =
    files.map fun file => (Text.encode file.path, file.contents)

/-! ## Conversions -/

/-- A conversion gives what it should, or refuses because of a NUL. -/
def Converts {γ : Type} (c : Consignment) (good : γ → Prop) : Except Error γ → Prop
  | .ok native => (∀ bytes ∈ c.items, 0 ∉ bytes) ∧ good native
  | .error e => (∃ bytes ∈ c.items, 0 ∈ bytes) ∧ e = .interiorNul c.what

namespace Marshal

private theorem cString_converts (what : String) (bytes : Bytes) :
    Converts ⟨what, [bytes]⟩ (fun s => s.bytes = bytes) (cString what bytes) := by
  unfold cString
  cases made : CString.ofBytes? bytes with
  | none => exact ⟨⟨bytes, List.mem_singleton_self _, CString.ofBytes?_eq_none_iff.mp made⟩, rfl⟩
  | some s =>
    refine ⟨?_, CString.bytes_of_ofBytes? made⟩
    rintro _ (_ | ⟨_, ⟨⟩⟩)
    rw [← CString.bytes_of_ofBytes? made]
    exact s.no_nul

private theorem path_converts (path : Bytes) :
    Converts (pathBytes path) (fun s => s.bytes = path) (Marshal.path path) := cString_converts ..

/-- Conversions one after another, when each is of one item. -/
theorem mapM_converts {α β δ : Type} {what : String} {convert : α → Except Error β} {item : α → Bytes}
    {image : β → δ} {given : α → δ}
    (each : ∀ a, Converts ⟨what, [item a]⟩ (fun b => image b = given a) (convert a)) (list : List α) :
    Converts ⟨what, list.map item⟩ (fun native => native.map image = list.map given) (list.mapM convert) := by
  induction list with
  | nil => exact ⟨nofun, rfl⟩
  | cons a rest ih =>
    have first := each a
    rw [List.mapM_cons]
    cases here : convert a with
    | error e =>
      rw [here] at first
      obtain ⟨⟨bytes, member, nul⟩, rfl⟩ := first
      obtain rfl := List.mem_singleton.mp member
      exact ⟨⟨item a, List.mem_cons_self, nul⟩, rfl⟩
    | ok b =>
      rw [here] at first
      obtain ⟨free, same⟩ := first
      cases later : rest.mapM convert with
      | error e =>
        rw [later] at ih
        obtain ⟨⟨bytes, member, nul⟩, rfl⟩ := ih
        exact ⟨⟨bytes, List.mem_cons_of_mem _ member, nul⟩, rfl⟩
      | ok natives =>
        rw [later] at ih
        exact ⟨List.forall_mem_cons.mpr ⟨free _ (List.mem_singleton_self _), ih.1⟩,
          List.cons_eq_cons.mpr ⟨same, ih.2⟩⟩

/-- Arguments are spelled as they are, or the first one with a zero byte is refused. -/
theorem args_converts (args : List String) :
    Converts (argBytes args) (Spell · (argBytes args).items) (Marshal.args args) :=
  mapM_converts (fun _ => cString_converts ..) args

/-- Files are paired up with their contents, or the first path with a zero byte is refused. Contents are not
looked at. -/
theorem unsaved_converts (files : List UnsavedFile) :
    Converts (unsavedBytes files) (PairUp · files) (Marshal.unsaved files) := by
  refine mapM_converts (fun file => ?_) files
  have path := cString_converts "unsaved file path" (Text.encode file.path)
  cases made : cString "unsaved file path" (Text.encode file.path) with
  | error e => rw [made] at path; exact path
  | ok s => rw [made] at path; exact ⟨path.1, congrArg (·, file.contents) path.2⟩

end Marshal

/-! ## Operations -/

variable {σ α γ : Type} {E : Engine σ} {w : World σ}

/-- An operation refuses the first class with a NUL, with nothing done, or else makes these calls. -/
def Forwards (classes : List Consignment) (made : List Call → Prop) (work : Attempt σ α) (w : World σ) : Prop :=
  Ensures work w fun result after => match firstRefused classes with
    | some what => result = .error (.interiorNul what) ∧ after = w
    | none => (∀ what, result ≠ .error (.interiorNul what)) ∧ ∃ calls, after.calls = w.calls ++ calls ∧ made calls

/-- An operation hands classes of bytes over, or refuses all of them for a NUL in one. -/
structure HandsOver (classes : List Consignment) (made : List Call → Prop) (work : Attempt σ α) (w : World σ) :
    Prop where
  forwards : Forwards classes made work w
  refused_iff : Ensures work w fun result _ =>
    (∃ what, result = .error (.interiorNul what)) ↔ ∃ c ∈ classes, ∃ bytes ∈ c.items, 0 ∈ bytes

namespace Forwards

variable {classes : List Consignment} {made : List Call → Prop}

/-- Convert one class, then see to the others. -/
theorem settle {c : Consignment} {good : γ → Prop} {conversion : Except Error γ} {next : γ → Attempt σ α}
    (converts : Converts c good conversion) (goesOn : ∀ native, good native → Forwards classes made (next native) w) :
    Forwards (c :: classes) made (HandleGraph.settle conversion >>= next) w := by
  unfold Forwards firstRefused
  rw [Ensures.bind_iff, Ensures.settle_iff]
  cases conversion with
  | error e =>
    obtain ⟨nul, rfl⟩ := converts
    rw [List.find?_cons_of_pos (by simpa using nul)]
    exact ⟨rfl, rfl⟩
  | ok native =>
    rw [List.find?_cons_of_neg (by simpa using converts.1)]
    exact goesOn native converts.2

private theorem of_free {work : Attempt σ α} (ensured : Ensures work w fun result after =>
    (∀ what, result ≠ .error (.interiorNul what)) ∧ ∃ calls, after.calls = w.calls ++ calls ∧ made calls) :
    Forwards [] made work w := ensured

/-- An operation is refused exactly when some class has a NUL. -/
theorem handsOver {work : Attempt σ α} (forwards : Forwards classes made work w) : HandsOver classes made work w := by
  refine ⟨forwards, ?_⟩
  have free : firstRefused classes = none ↔ _ := firstRefused_eq_none_iff
  apply Ensures.mono forwards
  intro result after reached
  cases refused : firstRefused classes with
  | some what =>
    rw [refused] at reached free
    exact ⟨fun _ => by simpa using free, fun _ => ⟨what, reached.1⟩⟩
  | none =>
    rw [refused] at reached
    refine ⟨fun ⟨what, same⟩ => absurd same (reached.1 what), ?_⟩
    rintro ⟨c, member, bytes, item, nul⟩
    exact absurd nul (free.mp refused c member bytes item)

end Forwards

/-- The engine is called with what an operation was given, or not at all. -/
structure Marshals (E : Engine σ) : Prop where
  parse : ∀ (w : World σ) (i : Index) path args files (options : ParseOptions),
    HandsOver [pathBytes path, argBytes args, unsavedBytes files]
      (fun calls => ∃ p a n unit, p.bytes = path ∧ Spell a (args.map Text.encode) ∧ PairUp n files ∧
        calls = [.asked (.parse (i.raw w) p a n options.bits) unit])
      (i.parse E path args files options) w
  read : ∀ (w : World σ) (i : Index) path, HandsOver [pathBytes path]
    (fun calls => ∃ p unit, p.bytes = path ∧ calls = [.asked (.load (i.raw w) p) unit]) (i.read E path) w
  getFile : ∀ (w : World σ) (u : TranslationUnit) path, HandsOver [pathBytes path]
    (fun calls => ∃ p file, p.bytes = path ∧ calls = [.asked (.getFile (u.raw w) p) file]) (u.getFile E path) w
  /-- The default options are asked for once and handed on. -/
  save : ∀ (w : World σ) (u : TranslationUnit) path, HandsOver [pathBytes path]
    (fun calls => ∃ p bits status, p.bytes = path ∧
      calls = [.asked (.defaultSaveOptions (u.raw w)) bits, .asked (.save (u.raw w) p bits) status])
    (u.save E path) w
  reparse_default : ∀ (w : World σ) (u : TranslationUnit) files, HandsOver [unsavedBytes files]
    (fun calls => ∃ n bits status, PairUp n files ∧
      calls = [.asked (.defaultReparseOptions (u.raw w)) bits, .asked (.reparse (u.raw w) n bits) status])
    (u.reparse E files none) w
  /-- Options that are given are handed on, and the default is not asked for. -/
  reparse_given : ∀ (w : World σ) (u : TranslationUnit) files (options : ReparseOptions),
    HandsOver [unsavedBytes files]
      (fun calls => ∃ n status, PairUp n files ∧ calls = [.asked (.reparse (u.raw w) n options.bits) status])
      (u.reparse E files (some options)) w

/-- Everything is converted before the first call, in the order of the parameters. What is refused makes no
call. -/
theorem marshals_exactly (E : Engine σ) : Marshals E where
  parse w i path args files options := by
    refine Forwards.handsOver (.settle (Marshal.path_converts path) fun p samePath => ?_)
    refine .settle (Marshal.args_converts args) fun a sameArgs => ?_
    refine .settle (Marshal.unsaved_converts files) fun n sameFiles => .of_free ?_
    simp only [Ensures.bind_iff, Ensures.perform_iff, Ensures.get_iff]
    split <;> exact ⟨nofun, _, rfl, p, a, n, _, samePath, sameArgs, sameFiles, rfl⟩
  read w i path := by
    refine Forwards.handsOver (.settle (Marshal.path_converts path) fun p samePath => .of_free ?_)
    simp only [Ensures.bind_iff, Ensures.perform_iff, Ensures.get_iff]
    split <;> exact ⟨nofun, _, rfl, p, _, samePath, rfl⟩
  getFile w u path := by
    refine Forwards.handsOver (.settle (Marshal.path_converts path) fun p samePath => .of_free ?_)
    simp only [Ensures.bind_iff, Ensures.perform_iff, Ensures.get_iff]
    split <;> exact ⟨nofun, _, rfl, p, _, samePath, rfl⟩
  save w u path := by
    refine Forwards.handsOver (.settle (Marshal.path_converts path) fun p samePath => .of_free ?_)
    simp only [Ensures.bind_iff, Ensures.perform_iff, Ensures.get_iff]
    split <;> exact ⟨nofun, _, List.append_assoc .., p, _, _, samePath, rfl⟩
  reparse_default w u files := by
    refine Forwards.handsOver (.settle (Marshal.unsaved_converts files) fun n sameFiles => .of_free ?_)
    simp only [Ensures.bind_iff, Ensures.perform_iff, Ensures.get_iff]
    split <;> exact ⟨nofun, _, List.append_assoc .., n, _, _, sameFiles, rfl⟩
  reparse_given w u files options := by
    refine Forwards.handsOver (.settle (Marshal.unsaved_converts files) fun n sameFiles => .of_free ?_)
    simp only [Ensures.bind_iff, Ensures.perform_iff, Ensures.get_iff]
    split <;> exact ⟨nofun, _, rfl, n, _, sameFiles, rfl⟩

end HandleGraph
