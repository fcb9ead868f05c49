import HandleGraph.Proofs.CursorOperations

/-! # What asking a cursor enters

A question may fill the memo of the cursor that is asked, or of a cursor that it leads to. Whatever is
remembered is owned from then on, and is of the same unit and generation as the cursor. What a question
makes is owned besides.
-/

namespace HandleGraph

variable {σ α : Type} {E : Engine σ} {w : World σ} {held : Multiset Owner} {u : TranslationUnit}
  {generation : UInt64}

namespace Cursor

/-- Work on a cursor that owns its unit enters what it does. -/
def Receives (work : Cursor → Attempt σ α) (owners : α → Multiset Owner)
    (good : Books → TranslationUnit → UInt64 → Cursor → α → Prop) : Prop :=
  ∀ c w held u generation, c.Rooted w.books u generation →
    (∀ v, c.unit = some v → .unit v ∈ held) →
    Enters (work c) w held owners fun b a => good b u generation c a

/-- Work that asks a live cursor. Any other cursor fails. -/
theorem Receives.of_live {work : TranslationUnit → Cursor → Attempt σ α} {owners : α → Multiset Owner}
    {good : Books → TranslationUnit → UInt64 → Cursor → α → Prop} (operation : String)
    (enters : ∀ {c : Cursor} {w held u generation}, c.Live w.books u generation → .unit u ∈ held →
      Enters (work u c) w held owners fun b a => good b u generation c a) :
    Receives (fun c => do work (← settle (c.live operation)) c) owners good := by
  intro c w held u generation rooted own
  simp only [Enters, Ensures.bind_iff, Ensures.settle_iff]
  cases rooted with
  | absent => exact .refl
  | position live =>
    have alive : c.live operation = .ok u := by simp [Cursor.live, live.unit, live.valid]
    rw [alive]
    exact enters live (own u live.unit)

/-- A text is asked of the engine in the cursor's own unit. -/
theorem queryText_receives (t : CursorText) :
    Receives (queryText E t) (fun _ => 0) fun _ u _ c _ => c.unit = some u := by
  refine Receives.of_live t.operation fun {c w held u generation} live own => ?_
  simp only [Enters, Ensures.bind_iff, Ensures.perform_iff]
  have asked : Books.Course (w.books, held) ((ask E (.text t c.raw) w).2.books, _) :=
    receive_course rfl (live.law own)
  apply (takeString_course held _ _).mono
  intro result after taken
  cases result with
  | error e => exact asked.trans taken
  | ok text =>
    refine ⟨?_, live.unit⟩
    rw [zero_add]
    exact asked.trans taken

private theorem queryOptionalText_receives (t : CursorText) :
    Receives (queryOptionalText E t) (fun _ => 0) fun _ _ _ _ _ => True := by
  refine Receives.of_live t.operation fun {c w held u generation} live own => ?_
  simp only [Enters, Ensures.bind_iff, Ensures.perform_iff]
  have asked : Books.Course (w.books, held) ((ask E (.text t c.raw) w).2.books, _) :=
    receive_course rfl (live.law own)
  refine ⟨?_, trivial⟩
  rw [zero_add]
  exact asked.trans (takeOptionalString_course _)

/-- A link leads to a cursor of the same unit and generation. -/
theorem queryLink_receives (l : Link) :
    Receives (queryLink E l) owners fun b u generation c d =>
      c.unit = some u ∧ d.Rooted b u generation := by
  refine Receives.of_live l.operation fun {c w held u generation} live own => ?_
  simp only [Enters, Ensures.bind_iff, Ensures.perform_iff]
  have asked : Books.Course (w.books, held) ((ask E (.link l c.raw) w).2.books, held) :=
    ask_course rfl (live.law own)
  split_ifs with absent optional
  · refine ⟨?_, live.unit, .absent⟩
    change Books.Course _ ((ask E (.link l c.raw) w).2.books, 0 + held)
    rwa [zero_add]
  · exact asked
  · refine ⟨asked.trans (make_course own), live.unit, ?_⟩
    have grown := Books.Extends.course asked
    rw [live.generation]
    exact rooted_make (w := (ask E (.link l c.raw) w).2) live.known (Bool.eq_false_iff.mpr absent)
      (.link (live.source.mono grown.calls.subset) List.mem_concat_self)

end Cursor

/-! ## Asking a cursor -/

/-- What has been entered while a cursor was asked. The cursor keeps its place and what it remembers is
owned with it. -/
structure Inspect.Entered (f : Focus σ) (held : Multiset Owner) (u : TranslationUnit)
    (generation : UInt64) (made : Multiset Owner) (after : Focus σ) : Prop where
  entered : Books.Course (f.world.books, f.cursor.owners + held)
    (after.world.books, made + (after.cursor.owners + held))
  rooted : after.cursor.Rooted after.world.books u generation
  kept : after.cursor.place = f.cursor.place

/-- Work on a cursor keeps what the cursor owns in the books, and leaves besides the owners in its
result. -/
def Inspect.EntersAt (work : Inspect σ α) (f : Focus σ) (held : Multiset Owner) (u : TranslationUnit)
    (generation : UInt64) (owners : α → Multiset Owner) (good : Books → α → Prop) : Prop :=
  Ensures work f fun result after => match result with
    | .ok a => Entered f held u generation (owners a) after ∧ good after.world.books a
    | .error _ => Entered f held u generation 0 after

/-- Work that enters what it does on every cursor. -/
def Inspect.Enters (work : Inspect σ α) (owners : α → Multiset Owner)
    (good : Books → TranslationUnit → UInt64 → α → Prop) : Prop :=
  ∀ f held u generation, f.cursor.Rooted f.world.books u generation →
    EntersAt work f held u generation owners fun b a => good b u generation a

namespace Inspect

variable {owners : α → Multiset Owner} {good : Books → TranslationUnit → UInt64 → α → Prop}

/-- Nothing is entered by work that leaves everything as it is. -/
theorem Entered.refl {f : Focus σ} (rooted : f.cursor.Rooted f.world.books u generation) :
    Entered f held u generation 0 f :=
  ⟨by rw [zero_add], rooted, rfl⟩

private theorem Entered.trans {f middle after : Focus σ} {made : Multiset Owner}
    (first : Entered f held u generation 0 middle) (second : Entered middle held u generation made after) :
    Entered f held u generation made after := by
  constructor
  case entered =>
    have reached := first.entered
    rw [zero_add] at reached
    exact reached.trans second.entered
  case rooted => exact second.rooted
  case kept => exact second.kept.trans first.kept

private theorem EntersAt.trans {f middle : Focus σ} {work : Inspect σ α} {good : Books → α → Prop}
    (first : Entered f held u generation 0 middle)
    (second : EntersAt work middle held u generation owners good) :
    Ensures work middle fun result after => match result with
      | .ok a => Entered f held u generation (owners a) after ∧ good after.world.books a
      | .error _ => Entered f held u generation 0 after := by
  apply Ensures.mono second
  rintro (e | a) after entered
  · exact first.trans entered
  · exact entered.imp_left first.trans

private theorem Enters.bind {β : Type} {first : Inspect σ α} {next : α → Inspect σ β}
    {later : β → Multiset Owner} {better : Books → TranslationUnit → UInt64 → β → Prop}
    (enters : Enters first (fun _ => 0) good) (goesOn : ∀ a, Enters (next a) later better) :
    Enters (first >>= next) later better := by
  intro f held u generation rooted
  apply Ensures.bind (enters f held u generation rooted) (fun _ _ entered => entered)
  rintro a middle ⟨entered, -⟩
  exact (goesOn a middle held u generation entered.rooted).trans entered

theorem lift_iff {f : Focus σ} {work : Attempt σ α} {post : Except Error α → Focus σ → Prop} :
    Ensures (lift work) f post ↔ Ensures work f.world fun result world => post result { f with world } :=
  Iff.rfl

theorem receiver_iff {f : Focus σ} {post : Except Error Cursor → Focus σ → Prop} :
    Ensures receiver f post ↔ post (.ok f.cursor) f := Iff.rfl

private theorem remember_iff {f : Focus σ} {change : Memo Cursor → Memo Cursor}
    {post : Except Error Unit → Focus σ → Prop} :
    Ensures (remember change) f post ↔
      post (.ok ()) { f with cursor := { f.cursor with memo := change f.cursor.memo } } := Iff.rfl

private theorem onOther_iff {f : Focus σ} {work : Inspect σ α} {c : Cursor}
    {post : Except Error (Except Error α × Cursor) → Focus σ → Prop} :
    Ensures (onOther work c) f post ↔
      Ensures work ⟨c, f.world⟩ fun result after =>
        post (.ok (result, after.cursor)) { f with world := after.world } := Iff.rfl

/-- An answer is taken from memory, or found out and remembered. -/
theorem memoised_iff {recollect : Memo Cursor → Option α} {keep : α → Memo Cursor → Memo Cursor}
    {work : Cursor → Attempt σ α} {f : Focus σ} {post : Except Error α → Focus σ → Prop} :
    Ensures (memoised recollect keep work) f post ↔ match recollect f.cursor.memo with
      | some a => post (.ok a) f
      | none => Ensures (work f.cursor) f.world fun result w => match result with
        | .ok a => post (.ok a) ⟨{ f.cursor with memo := keep a f.cursor.memo }, w⟩
        | .error e => post (.error e) ⟨f.cursor, w⟩ := by
  rw [memoised, Ensures.bind_iff, receiver_iff]
  simp only
  cases recollect f.cursor.memo with
  | some a => exact Iff.rfl
  | none =>
    simp only [Ensures.bind_iff, lift_iff, remember_iff, Ensures.pure_iff]
    unfold Ensures
    rcases (work f.cursor).run f.world with ⟨e | a, w⟩ <;> exact Iff.rfl

theorem owned_of_unit {c : Cursor} (held : Multiset Owner) (v : TranslationUnit)
    (here : c.unit = some v) : .unit v ∈ c.owners + held := by
  rw [Cursor.owners_eq]
  simp [here]

/-- Work on the world alone, for the cursor that is being asked. -/
theorem lift_enters {work : Cursor → Attempt σ α}
    (receives : Cursor.Receives work owners fun b u generation _ a => good b u generation a) :
    Enters (do lift (work (← receiver))) owners good := by
  intro f held u generation rooted
  rw [EntersAt, Ensures.bind_iff, receiver_iff]
  simp only
  rw [lift_iff]
  apply (receives f.cursor f.world (f.cursor.owners + held) u generation rooted (owned_of_unit held)).mono
  rintro (e | a) after entered
  · exact ⟨by rwa [zero_add], rooted.mono (.course entered), rfl⟩
  · exact ⟨⟨entered.1, rooted.mono (.course entered.1), rfl⟩, entered.2⟩

/-- An answer is remembered, with the owners in it, unless it is remembered already. -/
theorem memoised_enters {recollect : Memo Cursor → Option α} {keep : α → Memo Cursor → Memo Cursor}
    {work : Cursor → Attempt σ α} {good : Books → TranslationUnit → UInt64 → Cursor → α → Prop}
    (receives : Cursor.Receives work owners good)
    (owned : ∀ m a, recollect m = none → (keep a m).owners = owners a + m.owners)
    (remembered : ∀ {b u generation c a}, c.Rooted b u generation → good b u generation c a →
      Cursor.Rooted b u generation { c with memo := keep a c.memo }) :
    Enters (memoised recollect keep work) (fun _ => 0) fun _ _ _ _ => True := by
  intro f held u generation rooted
  rw [EntersAt, memoised_iff]
  cases known : recollect f.cursor.memo with
  | some a => exact ⟨.refl rooted, trivial⟩
  | none =>
    apply (receives f.cursor f.world (f.cursor.owners + held) u generation rooted (owned_of_unit held)).mono
    rintro (e | a) after entered
    · exact ⟨by rwa [zero_add], rooted.mono (.course entered), rfl⟩
    · refine ⟨⟨?_, remembered (rooted.mono (.course entered.1)) entered.2, rfl⟩, trivial⟩
      rw [zero_add, Cursor.owners_remember _ (owned _ a known), add_assoc]
      exact entered.1

end Inspect

namespace Cursor

open Inspect

/-- Plain answers do not change what is owned. -/
theorem memoised_enters {recollect : Memo Cursor → Option α} {keep : α → Memo Cursor → Memo Cursor}
    {work : Cursor → Attempt σ α}
    (receives : Receives work (fun _ => 0) fun _ u _ c _ => c.unit = some u)
    (same : ∀ a m l, (keep a m).link l = m.link l) :
    Inspect.Enters (memoised recollect keep work) (fun _ => 0) fun _ _ _ _ => True := by
  refine Inspect.memoised_enters receives (fun m a _ => ?_) fun {b u generation c a} rooted here => ?_
  · rw [zero_add, Memo.owners_congr (same a m)]
  · exact rooted.remember here fun l d remembered => rooted.link ((same a c.memo l).symm.trans remembered)

private theorem spelling_enters : Inspect.Enters (spelling E) (fun _ => 0) fun _ _ _ _ => True := by
  refine memoised_enters (fun c w held u generation rooted own => ?_) fun text m l => by cases l <;> rfl
  simp only [HandleGraph.Enters, Ensures.bind_iff, Ensures.perform_iff]
  apply (queryText_receives .spelling c w held u generation rooted own).mono
  rintro (e | text) after entered <;> exact entered

private theorem displayName_enters : Inspect.Enters (displayName E) (fun _ => 0) fun _ _ _ _ => True :=
  memoised_enters (queryText_receives _) fun text m l => by cases l <;> rfl

theorem hash_receives : Receives (fun c => do
    let _ ← settle (c.live "hash")
    perform (ask E (.hash c.raw))) (fun _ => 0) fun _ u _ c _ => c.unit = some u := by
  refine Receives.of_live "hash" fun {c w held u generation} live own => ?_
  refine ⟨?_, live.unit⟩
  rw [zero_add]
  exact ask_course rfl (live.law own)

private theorem hash_enters : Inspect.Enters (hash E) (fun _ => 0) fun _ _ _ _ => True :=
  memoised_enters hash_receives fun text m l => by cases l <;> rfl

private theorem link_enters (l : Link) : Inspect.Enters (link E l) (fun _ => 0) fun _ _ _ _ => True := by
  refine Inspect.memoised_enters (queryLink_receives l) (fun m d absent => ?_)
    fun {b u generation c d} rooted good => ?_
  · have exchanged := m.owners_setLink l d
    rwa [Memo.ownersAt, absent, Option.elim_none, add_zero] at exchanged
  · apply rooted.remember good.1
    intro other e remembered
    rw [Memo.link_setLink] at remembered
    split_ifs at remembered with here
    · exact Option.some.inj remembered ▸ good.2
    · exact rooted.link remembered

/-- What a link answers is what is remembered behind it. -/
theorem link_remembers (l : Link) (f : Focus σ) :
    Ensures (link E l) f fun result after => ∀ d, result = .ok d → after.cursor.memo.link l = some d := by
  rw [link, memoised_iff]
  cases known : f.cursor.memo.link l with
  | some d =>
    intro e same
    cases same
    rfl
  | none =>
    unfold Ensures
    cases ((queryLink E l f.cursor).run f.world).1 with
    | error e => nofun
    | ok d =>
      intro e same
      cases same
      simp

private theorem link_entered (held : Multiset Owner) (l : Link) {f : Focus σ}
    (rooted : f.cursor.Rooted f.world.books u generation) :
    Ensures (link E l) f fun result after => match result with
      | .ok d => Entered f held u generation 0 after ∧ after.cursor.memo.link l = some d
      | .error _ => Entered f held u generation 0 after := by
  have entered := link_enters (E := E) l f held u generation rooted
  have remembered := link_remembers (E := E) l f
  unfold EntersAt Ensures at *
  cases result : ((link E l).run f).1 with
  | error e => rwa [result] at entered
  | ok d => exact ⟨(result ▸ entered).1, remembered d result⟩

/-- Working within a link is to follow it first, and to keep what the work made of the cursor there. -/
theorem within_iff {work : Inspect σ α} {l : Link} {f : Focus σ} {post : Except Error α → Focus σ → Prop} :
    Ensures (within E l work) f post ↔ Ensures (link E l) f fun result middle => match result with
      | .ok d => Ensures work ⟨d, middle.world⟩ fun result after =>
        post result ⟨{ middle.cursor with memo := middle.cursor.memo.setLink l after.cursor }, after.world⟩
      | .error e => post (.error e) middle := by
  simp only [within, Ensures.bind_iff, onOther_iff, remember_iff, Ensures.mk_iff]
  unfold Ensures
  rcases (link E l).run f with ⟨e | d, middle⟩ <;> exact Iff.rfl

/-- Work on a remembered cursor. The rest of what the cursor owns is not concerned. -/
theorem within_enters {work : Inspect σ α} {owners : α → Multiset Owner}
    {good : Books → TranslationUnit → UInt64 → α → Prop} (enters : Inspect.Enters work owners good)
    (l : Link) : Inspect.Enters (within E l work) owners good := by
  intro f held u generation rooted
  rw [EntersAt, within_iff]
  apply Ensures.mono (link_entered held l rooted)
  rintro (e | d) ⟨c, w⟩ entered
  · exact entered
  obtain ⟨first, remembered⟩ : _ ∧ c.memo.link l = some d := entered
  obtain ⟨rest, split, others⟩ := exists_owners_setLink remembered
  have kept {made : Multiset Owner} {after : Focus σ}
      (worked : Entered ⟨d, w⟩ (rest + held) u generation made after) :
      Entered f held u generation made
        ⟨{ c with memo := c.memo.setLink l after.cursor }, after.world⟩ := by
    have reached := first.entered
    simp only [zero_add, split, add_assoc] at reached
    refine ⟨?_, (first.rooted.mono ?_).setLink remembered worked.rooted, ?_⟩
    · simp only [others, add_assoc]
      exact reached.trans worked.entered
    · exact .course worked.entered
    · exact first.kept
  apply (enters ⟨d, w⟩ (rest + held) u generation (first.rooted.link remembered)).mono
  rintro (e | a) after worked
  · exact kept worked
  · exact ⟨kept worked.1, worked.2⟩

/-- What work leaves in a cursor is found at the end of the chain of links to it. -/
theorem along_leaves (good : α → Cursor → Prop) {work : Inspect σ α}
    (leaves : ∀ f, Ensures work f fun result after => ∀ a, result = .ok a → good a after.cursor)
    (path : List Link) (f : Focus σ) :
    Ensures (along E path work) f fun result after =>
      ∀ a, result = .ok a → ∃ d, after.cursor.follow path = some d ∧ good a d := by
  induction path generalizing f with
  | nil => exact (leaves f).mono fun result after left a same => ⟨_, rfl, left a same⟩
  | cons l path ih =>
    refine within_iff.mpr ((link_remembers l f).mono ?_)
    rintro (e | d) middle remembered
    · nofun
    · apply (ih ⟨d, middle.world⟩).mono
      intro result after left a same
      obtain ⟨x, reached, good⟩ := left a same
      exact ⟨x, by simpa [follow_cons] using reached, good⟩

/-- Work at the end of a chain of links. -/
theorem along_enters {work : Inspect σ α} {owners : α → Multiset Owner}
    {good : Books → TranslationUnit → UInt64 → α → Prop} (enters : Inspect.Enters work owners good)
    (path : List Link) : Inspect.Enters (along E path work) owners good := by
  induction path with
  | nil => exact enters
  | cons l path ih => exact within_enters ih l

/-- What such work enters holds for every unit and generation that the cursor is of. -/
theorem along_entered {work : Inspect σ α} {owners : α → Multiset Owner}
    {good : Books → TranslationUnit → UInt64 → α → Prop} (enters : Inspect.Enters work owners good)
    (path : List Link) (f : Focus σ) (held : Multiset Owner) :
    Ensures (along E path work) f fun result after =>
      ∀ u generation, f.cursor.Rooted f.world.books u generation → match result with
        | .ok a => Entered f held u generation (owners a) after ∧ good after.world.books u generation a
        | .error _ => Entered f held u generation 0 after :=
  fun u generation rooted => along_enters enters path f held u generation rooted

private theorem usr_enters : Inspect.Enters (usr E) (fun _ => 0) fun _ _ _ _ => True := by
  apply lift_enters
  intro c w held u generation rooted own
  apply (queryText_receives .usr c w held u generation rooted own).mono
  rintro (e | text) after entered
  · exact entered
  · exact ⟨entered.1, trivial⟩

private theorem briefComment_enters : Inspect.Enters (briefComment E) (fun _ => 0) fun _ _ _ _ => True :=
  lift_enters (queryOptionalText_receives .briefComment)

private theorem rawComment_enters : Inspect.Enters (rawComment E) (fun _ => 0) fun _ _ _ _ => True :=
  lift_enters (queryOptionalText_receives .rawComment)

private theorem test_enters (t : CursorTest) : Inspect.Enters (test E t) (fun _ => 0) fun _ _ _ _ => True := by
  refine lift_enters (Receives.of_live t.operation fun {c w held u generation} live own => ⟨?_, trivial⟩)
  rw [zero_add]
  exact ask_course rfl (live.law own)

private theorem bitFieldWidth_enters : Inspect.Enters (bitFieldWidth E) (fun _ => 0) fun _ _ _ _ => True := by
  refine lift_enters (Receives.of_live "get_bitfield_width" fun {c w held u generation} live own => ⟨?_, trivial⟩)
  rw [zero_add]
  exact ask_course rfl (live.law own)

/-- Where no child is null the walk shows them all. -/
theorem walk_of_valid {offered : List CursorHandle} (valid : ∀ d ∈ offered, d.isNull = false) :
    untilNull.walk offered = ⟨offered, false⟩ := by
  induction offered with
  | nil => rfl
  | cons child rest ih =>
    have here := valid child List.mem_cons_self
    have later := ih fun d member => valid d (List.mem_cons_of_mem _ member)
    simp [Visitor.walk, untilNull, here, later]

/-- The walk stops at the first null child. -/
theorem walk_of_null {before rest : List CursorHandle} {child : CursorHandle}
    (valid : ∀ d ∈ before, d.isNull = false) (null : child.isNull) :
    untilNull.walk (before ++ child :: rest) = ⟨before ++ [child], true⟩ := by
  induction before with
  | nil => simp [Visitor.walk, untilNull, null]
  | cons first before ih =>
    have here := valid first List.mem_cons_self
    have later := ih fun d member => valid d (List.mem_cons_of_mem _ member)
    simp [Visitor.walk, untilNull, here, later]

/-- A walk that was not stopped has shown no null child. -/
theorem valid_of_walk {offered : List CursorHandle} (proceeded : (untilNull.walk offered).stopped = false)
    {d : CursorHandle} (shown : d ∈ (untilNull.walk offered).shown) : d.isNull = false := by
  induction offered with
  | nil => cases shown
  | cons child rest ih =>
    cases absent : child.isNull with
    | true => simp [Visitor.walk, untilNull, absent] at proceeded
    | false =>
      simp only [Visitor.walk, untilNull, absent, Bool.false_eq_true, ↓reduceIte] at proceeded shown
      rcases List.mem_cons.mp shown with rfl | shown
      · exact absent
      · exact ih proceeded shown

private theorem children_enters : Inspect.Enters (children E) (fun s => {.unit s.unit})
    fun b u generation s => s.Sound b ∧ s.unit = u ∧ s.generation = generation := by
  refine lift_enters (Receives.of_live "get_children" fun {c w held u generation} live own => ?_)
  have walked : Books.Course (w.books, held) ((walkChildren E c.raw untilNull w).2.books, held) :=
    .single (.call rfl (live.law own))
  have grown := Books.Extends.course walked
  simp only [HandleGraph.Enters, Ensures.bind_iff, Ensures.perform_iff]
  split_ifs with stopped
  · exact walked
  · have cloned : Books.Course _ _ := walked.trans (TranslationUnit.clone_course own)
    refine ⟨cloned, CursorSequence.Sound.mono (.course (TranslationUnit.clone_course own)) ?_, rfl,
      live.generation⟩
    constructor
    case known => exact live.known
    case children =>
      intro raws source raw member
      obtain rfl := CursorSource.children.inj source
      exact ⟨valid_of_walk (Bool.eq_false_iff.mpr stopped) member,
        .child (live.source.mono grown.calls.subset) List.mem_concat_self member⟩
    case parent =>
      intro raw count source
      cases source

private theorem arguments_enters : Inspect.Enters (arguments E) (fun s => {.unit s.unit})
    fun b u generation s => s.Sound b ∧ s.unit = u ∧ s.generation = generation := by
  refine lift_enters (Receives.of_live "get_arguments" fun {c w held u generation} live own => ?_)
  have asked : Books.Course (w.books, held) ((ask E (.argumentCount c.raw) w).2.books, held) :=
    ask_course rfl (live.law own)
  have cloned : Books.Course _ _ := asked.trans (TranslationUnit.clone_course own)
  have later := live.mono (.course cloned)
  refine ⟨cloned, ⟨later.known, nofun, fun raw count source => ?_⟩, rfl, live.generation⟩
  obtain ⟨rfl, -⟩ := CursorSource.arguments.inj source
  exact ⟨later.valid, later.source⟩

end Cursor

/-! ## Questions -/

def Outcome.owners (o : Outcome) : Multiset Owner := o.made.elim 0 Object.owners

/-- What a command has made is of a unit and a generation. -/
def Outcome.Of (b : Books) (u : TranslationUnit) (generation : UInt64) (o : Outcome) : Prop :=
  ∀ x, o.made = some x → x.Of b u generation

namespace Question

open Inspect

/-- An answer that makes no object. -/
theorem answer_enters {work : Inspect σ α} (enters : Inspect.Enters work (fun _ => 0) fun _ _ _ _ => True)
    (reply : α → Reply) :
    Inspect.Enters (do return ⟨reply (← work), none⟩) Outcome.owners fun b u generation o =>
      o.Of b u generation :=
  enters.bind fun _ _ _ _ _ rooted => ⟨.refl rooted, nofun⟩

/-- An object that is made on the way is handed on. -/
theorem made_enters {f : Focus σ} {work : Inspect σ α} {wrap : α → Object}
    (enters : EntersAt work f held u generation (fun a => (wrap a).owners)
      fun b a => (wrap a).Of b u generation) :
    EntersAt (do ask.made (wrap (← work))) f held u generation Outcome.owners
      fun b o => o.Of b u generation := by
  refine Ensures.bind enters (fun _ _ entered => entered) fun a after ⟨entered, good⟩ => ⟨entered, ?_⟩
  rintro x made
  obtain rfl := Option.some.inj made
  exact good

private theorem make_enters {f : Focus σ} (wrap : α → Object) (work : Action σ α)
    (rooted : f.cursor.Rooted f.world.books u generation)
    (course : Books.Course (f.world.books, f.cursor.owners + held)
      ((work f.world).2.books, (wrap (work f.world).1).owners + (f.cursor.owners + held)))
    (good : (wrap (work f.world).1).Of (work f.world).2.books u generation) :
    EntersAt (ask.make wrap work) f held u generation Outcome.owners fun b o => o.Of b u generation :=
  made_enters ⟨⟨course, rooted.mono (.course course), rfl⟩, good⟩

private theorem settleKind_enters (result : Except Error α) :
    Inspect.Enters (σ := σ) (ask.settleKind result) (fun _ => 0) fun _ _ _ _ => True := by
  intro f held u generation rooted
  cases result with
  | error e => exact .refl rooted
  | ok a => exact ⟨.refl rooted, trivial⟩

/-- Whatever a cursor is asked, its unit and generation are handed on. -/
theorem ask_enters (q : Question) :
    Inspect.Enters (q.ask E) Outcome.owners fun b u generation o => o.Of b u generation := by
  cases q with
  | view => exact fun f held u generation rooted => ⟨.refl rooted, nofun⟩
  | copy =>
    intro f held u generation rooted
    have own := owned_of_unit (c := f.cursor) held
    obtain ⟨course, copied⟩ := Cursor.clone_course rooted own
    exact make_enters .cursor _ rooted course copied
  | unit =>
    intro f held u generation rooted
    unfold ask
    rw [EntersAt, Ensures.bind_iff, receiver_iff]
    cases here : f.cursor.unit with
    | none =>
      simp only [here]
      exact ⟨.refl rooted, nofun⟩
    | some v =>
      simp only [here]
      obtain rfl : v = u := Option.some.inj (here.symm.trans (rooted.live here).unit)
      have own := owned_of_unit held v here
      have cloned := TranslationUnit.clone_course (w := f.world) own
      have known := (rooted.live here).known
      exact make_enters .unit v.clone rooted cloned
        (known.trans_le (Books.Extends.course cloned).units_length)
  | kind =>
    intro f held u generation rooted
    unfold ask
    rw [EntersAt, Ensures.bind_iff, receiver_iff]
    simp only
    generalize CursorKind.ofValue? f.cursor.raw.kind = found
    refine (settleKind_enters found).bind (fun kind => ?_) f held u generation rooted
    generalize kind.name = name
    exact answer_enters (settleKind_enters name) (Reply.kind kind)
  | spelling => exact answer_enters Cursor.spelling_enters _
  | displayName => exact answer_enters Cursor.displayName_enters _
  | usr => exact answer_enters Cursor.usr_enters _
  | hash => exact answer_enters Cursor.hash_enters _
  | link l =>
    intro f held u generation rooted
    apply Ensures.bind (Cursor.link_entered held l rooted) (fun _ _ entered => entered)
    rintro d after ⟨entered, remembered⟩
    have own (v : TranslationUnit) (here : d.unit = some v) : .unit v ∈ after.cursor.owners + held := by
      obtain ⟨rest, split, -⟩ := Cursor.exists_owners_setLink remembered
      rw [split, add_assoc]
      exact owned_of_unit _ v here
    obtain ⟨course, copied⟩ := Cursor.clone_course (entered.rooted.link remembered) own
    exact (make_enters .cursor _ entered.rooted course copied).trans entered
  | test t => exact answer_enters (Cursor.test_enters t) _
  | briefComment => exact answer_enters Cursor.briefComment_enters _
  | rawComment => exact answer_enters Cursor.rawComment_enters _
  | bitFieldWidth => exact answer_enters Cursor.bitFieldWidth_enters _
  | children => exact fun f held u generation rooted => made_enters (Cursor.children_enters f held u generation rooted)
  | arguments =>
    exact fun f held u generation rooted => made_enters (Cursor.arguments_enters f held u generation rooted)

end Question

end HandleGraph
