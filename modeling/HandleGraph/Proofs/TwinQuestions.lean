import HandleGraph.Proofs.TwinCursors

/-! # Asking twins

Whatever twin cursors are asked comes to the same, along any chain of links, and they remember the same of it:
one answers from memory if and only if the other does. Replies are the same up to the matching.
-/

namespace HandleGraph

variable {σ α : Type}

/-- Twin cursors are asked in worlds in which the unit is in use. -/
structure Pairing.Focused (P : Pairing σ) (m : Matching) (f g : Focus σ) : Prop where
  world : P.Working m f.world g.world
  cursor : P.Cursors m f.cursor g.cursor

namespace Twinned

variable {P : Pairing σ} {m : Matching} {good : Matching → α → α → Prop}

/-- Twins by what either run ensures. -/
theorem of_ensures {β : Type} {good : Matching → α → β → Prop} {work : Inspect σ α} {other : Inspect σ β}
    (ensured : ∀ {m₁ f g}, m.Grows m₁ → P.Focused m₁ f g → Ensures work f fun result after =>
      Ensures other g fun result' after' =>
        ∃ m₂, m₁.Grows m₂ ∧ P.Focused m₂ after after' ∧ SameResult (good m₂) result result') :
    Twinned m P.Focused P.Focused (fun m => SameResult (good m)) work.run other.run :=
  ⟨fun grown focused => ensured grown focused⟩

private theorem lift {β : Type} {good : Matching → α → β → Prop} {work : Attempt σ α} {other : Attempt σ β}
    (twins : Twinned m P.Working P.Working (fun m => SameResult (good m)) work.run other.run) :
    Twinned m P.Focused P.Focused (fun m => SameResult (good m)) (Inspect.lift work).run (Inspect.lift other).run := by
  refine ⟨fun {m₁ f g} grown focused => ?_⟩
  obtain ⟨m₂, grown', working, same⟩ := twins.together grown focused.world
  exact ⟨m₂, grown', ⟨working, focused.cursor.mono grown'⟩, same⟩

theorem receiver :
    Twinned m P.Focused P.Focused (fun m => SameResult (P.Cursors m)) (Inspect.receiver : Inspect σ Cursor).run
      (Inspect.receiver : Inspect σ Cursor).run :=
  ⟨fun {m₁ _ _} _ focused => ⟨m₁, .refl m₁, focused, .ok focused.cursor⟩⟩

/-- Twins remember the same, and what is found out about them is remembered by both. The null cursor has no
answers to remember. -/
theorem memoised {recollect : Memo Cursor → Option α} {keep : α → Memo Cursor → Memo Cursor}
    {work : Cursor → Attempt σ α} {e : Error} (fails : ∀ w, (work .null).run w = (.error e, w))
    (recollects : ∀ {m c c'}, P.Cursors m c c' → Option.Rel (good m) (recollect c.memo) (recollect c'.memo))
    (keeps : ∀ {m c c' a a'}, P.Cursors m c c' → c.unit.isSome → good m a a' →
      P.Cursors m { c with memo := keep a c.memo } { c' with memo := keep a' c'.memo })
    (asks : ∀ {m c c'}, P.Cursors m c c' →
      Twinned m P.Working P.Working (fun m => SameResult (good m)) (work c).run (work c').run) :
    Twinned m P.Focused P.Focused (fun m => SameResult (good m)) (Inspect.memoised recollect keep work).run
      (Inspect.memoised recollect keep work).run := by
  refine .of_ensures fun {m₁ f g} grown focused => ?_
  simp only [Inspect.memoised_iff]
  have both := recollects focused.cursor
  generalize recollect f.cursor.memo = known at both ⊢
  generalize recollect g.cursor.memo = known' at both ⊢
  cases both with
  | some same => exact ⟨m₁, .refl m₁, focused, .ok same⟩
  | none =>
    rcases focused.cursor.unit with ⟨null, null'⟩ | ⟨-, unit, -⟩
    · unfold Ensures
      rw [null, null', fails, fails]
      exact ⟨m₁, .refl m₁, ⟨focused.world, .absent⟩, .error e⟩
    · obtain ⟨m₂, grown', working, same⟩ := (asks focused.cursor).together (.refl m₁) focused.world
      have twins := focused.cursor.mono grown'
      unfold Ensures
      generalize ((work f.cursor).run f.world).1 = result at same ⊢
      generalize ((work g.cursor).run g.world).1 = result' at same ⊢
      cases same with
      | error e => exact ⟨m₂, grown', ⟨working, twins⟩, .error e⟩
      | ok same => exact ⟨m₂, grown', ⟨working, keeps twins (by simp [unit]) same⟩, .ok same⟩

end Twinned

/-! ## Accessors -/

private theorem Pairing.Cursors.plain {P : Pairing σ} {m : Matching} {c c' : Cursor} (twins : P.Cursors m c c') :
    c.memo.plain = c'.memo.plain := by
  cases twins with
  | absent => rfl
  | position place => exact place.plain

/-- Twins remember twins behind a link, or nothing. -/
theorem Pairing.Cursors.link {P : Pairing σ} {m : Matching} {c c' : Cursor} (twins : P.Cursors m c c') (l : Link) :
    Option.Rel (P.Cursors m) (c.memo.link l) (c'.memo.link l) := by
  cases twins with
  | absent => cases l <;> exact .none
  | position place known links =>
    have known := known l
    have links := links l
    revert known links
    generalize c.memo.link l = d
    generalize c'.memo.link l = d'
    cases d <;> cases d' <;> intro known links
    · exact .none
    · cases known
    · cases known
    · exact .some (links _ _ rfl rfl)

private theorem same_option {β : Type} {o o' : Option β} (same : o = o') : Option.Rel Eq o o' := by
  subst same
  cases o with
  | none => exact .none
  | some _ => exact .some rfl

namespace Isolated

variable {P : Pairing σ} {m : Matching} {E : Engine σ} {elsewhere : CString → Prop}
  (isolated : Isolated E elsewhere P.same)

include isolated

private theorem spelling :
    Twinned m P.Focused P.Focused (fun _ => SameResult Eq) (Cursor.spelling E).run (Cursor.spelling E).run := by
  refine .memoised (fun _ => rfl) (fun twins => same_option (congrArg (·.1) twins.plain)) ?_ fun twins => ?_
  · rintro m c c' text _ twins here rfl
    refine twins.remember here ?_ (fun l => by cases l <;> rfl) (fun l => by cases l <;> rfl)
    exact congrArg (fun p => (some text, p.2)) twins.plain
  · refine (isolated.queryText .spelling twins).next fun _ text _ _ same => ?_
    subst same
    exact Pairing.tell _ _ (.ok fun _ _ => rfl)

private theorem displayName :
    Twinned m P.Focused P.Focused (fun _ => SameResult Eq) (Cursor.displayName E).run (Cursor.displayName E).run := by
  refine .memoised (fun _ => rfl) (fun twins => same_option (congrArg (·.2.1) twins.plain)) ?_
    (isolated.queryText .displayName)
  rintro m c c' text _ twins here rfl
  refine twins.remember here ?_ (fun l => by cases l <;> rfl) (fun l => by cases l <;> rfl)
  exact congrArg (fun p => (p.1, some text, p.2.2)) twins.plain

private theorem hash :
    Twinned m P.Focused P.Focused (fun _ => SameResult Eq) (Cursor.hash E).run (Cursor.hash E).run := by
  refine .memoised (fun _ => rfl) (fun twins => same_option (congrArg (·.2.2) twins.plain)) ?_ fun {m₁ c c'} twins => ?_
  · rintro m c c' word _ twins here rfl
    refine twins.remember here ?_ (fun l => by cases l <;> rfl) (fun l => by cases l <;> rfl)
    exact congrArg (fun p => (p.1, p.2.1, some word)) twins.plain
  · refine .settled (twins.live _) fun _ _ live => .perform ?_
    have asks : m₁.Asks (.hash c.raw) (.hash c'.raw) fun _ => Eq := .hash live.2.2.raw
    exact isolated.ask live.2.2.inUse asks

private theorem link (l : Link) :
    Twinned m P.Focused P.Focused (fun m => SameResult (P.Cursors m)) (Cursor.link E l).run (Cursor.link E l).run :=
  .memoised (fun _ => rfl) (fun twins => twins.link l) (fun twins here behind => twins.setLink here l behind)
    (isolated.queryLink l)

/-- Work on twins behind a link. Only cursors with a unit lead to others. -/
theorem within (l : Link) {good : Matching → α → α → Prop} {work : Inspect σ α}
    (twins : ∀ m, Twinned m P.Focused P.Focused (fun m => SameResult (good m)) work.run work.run) :
    Twinned m P.Focused P.Focused (fun m => SameResult (good m)) (Cursor.within E l work).run
      (Cursor.within E l work).run := by
  refine .of_ensures fun {m₁ f g} grown focused => ?_
  obtain ⟨m₂, grown', after, same⟩ := (isolated.link l).together (.refl m₁) focused
  have remembered := Cursor.link_remembers (E := E) l f
  simp only [Cursor.within_iff]
  unfold Ensures at remembered ⊢
  change P.Focused m₂ ((Cursor.link E l).run f).2 ((Cursor.link E l).run g).2 at after
  change SameResult (P.Cursors m₂) ((Cursor.link E l).run f).1 ((Cursor.link E l).run g).1 at same
  generalize (Cursor.link E l).run f = found, (Cursor.link E l).run g = found' at after same remembered ⊢
  obtain ⟨result, middle⟩ := found
  obtain ⟨result', middle'⟩ := found'
  dsimp only at after same remembered ⊢
  cases same with
  | error e => exact ⟨m₂, grown', after, .error e⟩
  | @ok d d' behind =>
    have here : middle.cursor.unit.isSome := by
      rcases after.cursor.unit with ⟨null, -⟩ | ⟨-, unit, -⟩
      · have remembered := remembered d rfl
        rw [null] at remembered
        cases l <;> cases remembered
      · simp [unit]
    have inner : P.Focused m₂ ⟨d, middle.world⟩ ⟨d', middle'.world⟩ := ⟨after.world, behind⟩
    obtain ⟨m₃, grown'', worked, result⟩ := (twins m₂).together (.refl m₂) inner
    exact ⟨m₃, grown'.trans grown'', ⟨worked.world, (after.cursor.mono grown'').setLink here l worked.cursor⟩, result⟩

/-- Twins are followed along the same links, and the work is done on twins again. -/
theorem along (path : List Link) {good : Matching → α → α → Prop} {work : Inspect σ α}
    (twins : ∀ m, Twinned m P.Focused P.Focused (fun m => SameResult (good m)) work.run work.run) :
    Twinned m P.Focused P.Focused (fun m => SameResult (good m)) (Cursor.along E path work).run
      (Cursor.along E path work).run := by
  induction path generalizing m with
  | nil => exact twins m
  | cons l path ih => exact isolated.within l fun _ => ih

private theorem usr : Twinned m P.Focused P.Focused (fun _ => SameResult Eq) (Cursor.usr E).run (Cursor.usr E).run :=
  Twinned.receiver.next fun _ _ _ _ twins => .lift (isolated.queryText .usr twins)

private theorem briefComment :
    Twinned m P.Focused P.Focused (fun _ => SameResult Eq) (Cursor.briefComment E).run (Cursor.briefComment E).run :=
  Twinned.receiver.next fun _ _ _ _ twins => .lift (isolated.queryOptionalText .briefComment twins)

private theorem rawComment :
    Twinned m P.Focused P.Focused (fun _ => SameResult Eq) (Cursor.rawComment E).run (Cursor.rawComment E).run :=
  Twinned.receiver.next fun _ _ _ _ twins => .lift (isolated.queryOptionalText .rawComment twins)

private theorem test (t : CursorTest) :
    Twinned m P.Focused P.Focused (fun _ => SameResult Eq) (Cursor.test E t).run (Cursor.test E t).run := by
  refine Twinned.receiver.next fun m₁ c c' _ twins => .lift (.settled (twins.live _) fun _ _ live => .perform ?_)
  have asks : m₁.Asks (.test t c.raw) (.test t c'.raw) fun _ => Eq := .test t live.2.2.raw
  exact isolated.ask live.2.2.inUse asks

private theorem bitFieldWidth :
    Twinned m P.Focused P.Focused (fun _ => SameResult Eq) (Cursor.bitFieldWidth E).run
      (Cursor.bitFieldWidth E).run := by
  refine Twinned.receiver.next fun m₁ c c' _ twins => .lift (.settled (twins.live _) fun _ _ live => ?_)
  have asks : m₁.Asks (.bitWidth c.raw) (.bitWidth c'.raw) fun _ => Eq := .bitWidth live.2.2.raw
  refine (Twinned.perform (isolated.ask live.2.2.inUse asks)).next fun _ width _ _ same => ?_
  subst same
  exact .ok fun _ _ => rfl

private theorem children_sequence :
    Twinned m P.Focused P.Focused (fun m => SameResult (P.Sequences m)) (Cursor.children E).run
      (Cursor.children E).run := by
  refine Twinned.receiver.next fun m₁ _ _ _ twins => .lift (.settled (twins.live _) fun u u' live => ?_)
  obtain ⟨rfl, rfl, place⟩ := live
  refine (Twinned.perform (isolated.walk place.inUse place.raw)).next fun m₂ walk walk' _ walked => ?_
  rw [walked.2]
  split_ifs
  · exact Pairing.tell _ _ (.throw _)
  · refine (Twinned.perform (Pairing.clone place.inUse)).next fun m₃ _ _ grown same => .ok fun m₄ grown' => ?_
    refine ⟨place.inUse, same.1, same.2, place.generation, .children ?_⟩
    exact walked.1.imp fun _ _ => (grown.trans grown').cursor

private theorem arguments_sequence :
    Twinned m P.Focused P.Focused (fun m => SameResult (P.Sequences m)) (Cursor.arguments E).run
      (Cursor.arguments E).run := by
  refine Twinned.receiver.next fun m₁ c c' _ twins => .lift (.settled (twins.live _) fun u u' live => ?_)
  obtain ⟨rfl, rfl, place⟩ := live
  have asks : m₁.Asks (.argumentCount c.raw) (.argumentCount c'.raw) fun _ => Eq := .argumentCount place.raw
  refine (Twinned.perform (isolated.ask place.inUse asks)).next fun m₂ count _ grown same => ?_
  subst same
  refine (Twinned.perform (Pairing.clone place.inUse)).next fun m₃ _ _ grown' same => .ok fun m₄ grown'' => ?_
  refine ⟨place.inUse, same.1, same.2, place.generation, .arguments ?_ _⟩
  exact (grown.trans (grown'.trans grown'')).cursor place.raw

end Isolated

/-! ## What objects show -/

/-- A reply in which no handle shows. -/
def Reply.Plain : Reply → Prop
  | .index _ | .unit .. | .file _ | .cursor _ | .views _ | .results _ => False
  | _ => True

/-- The debugging text of a unit. The handle shows in it. -/
def UnitHandle.describeUnit (raw : UnitHandle) (generation : UInt64) : String :=
  "TranslationUnit \x7b raw: " ++ Text.address raw.address.toNat ++ ", generation: " ++
    toString generation.toNat ++ ", .. \x7d"

/-- Cursors that show the same but for their handles. -/
structure Matching.Views (m : Matching) (v v' : CursorView) : Prop where
  raw : m.cursor v.raw v'.raw
  isNull : v.isNull = v'.isNull
  isStale : v.isStale = v'.isStale
  hasUnit : v.hasUnit = v'.hasUnit

/-- The same replies but for the handles in them. -/
inductive Matching.Replies (m : Matching) : Reply → Reply → Prop
  | same {r : Reply} (plain : r.Plain) : Replies m r r
  | index : Replies m (.index m.index) (.index m.index')
  | unit : Replies m (.unit m.unit m.index) (.unit m.unit' m.index')
  | file {f f' : FileHandle} (matched : m.file f f') : Replies m (.file f) (.file f')
  | cursor {v v' : CursorView} (views : m.Views v v') : Replies m (.cursor v) (.cursor v')
  | views {all all' : List CursorView} (views : List.Forall₂ m.Views all all') : Replies m (.views all) (.views all')
  | results {all all' : List (Except Error CursorView)} (views : List.Forall₂ (SameResult m.Views) all all') :
      Replies m (.results all) (.results all')
  | described (generation : UInt64) :
      Replies m (.text (m.unit.describeUnit generation)) (.text (m.unit'.describeUnit generation))

namespace Matching

variable {m m' : Matching}

private theorem Views.mono (grown : m.Grows m') {v v' : CursorView} (views : m.Views v v') : m'.Views v v' :=
  ⟨grown.cursor views.raw, views.isNull, views.isStale, views.hasUnit⟩

theorem Replies.mono (grown : m.Grows m') {r r' : Reply} (replies : m.Replies r r') : m'.Replies r r' := by
  cases replies with
  | same plain => exact .same plain
  | index => rw [grown.index, grown.index']; exact .index
  | unit => rw [grown.unit, grown.unit', grown.index, grown.index']; exact .unit
  | file matched => exact .file (grown.file matched)
  | cursor views => exact .cursor (views.mono grown)
  | views all => exact .views (all.imp fun _ _ => .mono grown)
  | results all => exact .results (all.imp fun _ _ => .imp fun _ _ => .mono grown)
  | described generation => rw [grown.unit, grown.unit']; exact .described generation

end Matching

namespace Pairing

variable {P : Pairing σ} {m m' : Matching} {E : Engine σ} {w v : World σ}

/-- What shows of twins is the same but for the handles, which match. -/
theorem Cursors.view {c c' : Cursor} (twins : P.Cursors m c c') (working : P.Working m w v) :
    m.Views (c.view w) (c'.view v) where
  raw := twins.raw
  isNull := by
    change (c.raw.isNull || c.unit.isNone) = (c'.raw.isNull || c'.unit.isNone)
    rw [m.cursor_null twins.raw]
    rcases twins.unit with ⟨rfl, rfl⟩ | ⟨-, unit, unit'⟩
    · rfl
    · rw [unit, unit']
      rfl
  isStale := twins.isStale working
  hasUnit := by
    change c.unit.isSome = c'.unit.isSome
    rcases twins.unit with ⟨rfl, rfl⟩ | ⟨-, unit, unit'⟩
    · rfl
    · rw [unit, unit']
      rfl

/-- The same object of the unit in either run. -/
inductive Objects (P : Pairing σ) (m : Matching) : Object → Object → Prop
  | unit (inUse : P.inUse) : Objects P m (.unit P.unit) (.unit P.unit')
  | file {f f' : File} (files : P.Files m f f') : Objects P m (.file f) (.file f')
  | cursor {c c' : Cursor} (twins : P.Cursors m c c') : Objects P m (.cursor c) (.cursor c')
  | cursors {s s' : CursorSequence} (twins : P.Sequences m s s') : Objects P m (.cursors s) (.cursors s')

namespace Objects

variable {o o' : Object}

theorem mono (objects : P.Objects m o o') (grown : m.Grows m') : P.Objects m' o o' := by
  cases objects with
  | unit inUse => exact .unit inUse
  | file files => exact .file (files.mono grown)
  | cursor twins => exact .cursor (twins.mono grown)
  | cursors twins => exact .cursors (twins.mono grown)

private theorem reply (objects : P.Objects m o o') (working : P.Working m w v) :
    m.Replies (o.reply w) (o'.reply v) := by
  cases objects with
  | unit inUse =>
    have facts := working.fact inUse
    simp only [Object.reply, facts.raw, facts.raw', facts.index, facts.index']
    exact .unit
  | file files => exact .file files.raw
  | cursor twins => exact .cursor (twins.view working)
  | cursors twins =>
    simp only [Object.reply, twins.length]
    exact .same trivial

/-- Twins can be copied both or neither. -/
theorem clone (objects : P.Objects m o o') :
    Option.Rel (Twinned m P.Working P.Working P.Objects) (o.clone? : Option (Action σ Object)) o'.clone? := by
  cases objects with
  | unit inUse =>
    refine .some ((Pairing.clone inUse).map fun m₁ _ _ _ same => ?_)
    obtain ⟨rfl, rfl⟩ := same
    exact .unit inUse
  | file files => exact .some (files.clone.map fun _ _ _ _ files => .file files)
  | cursor twins => exact .some (twins.clone.map fun _ _ _ _ twins => .cursor twins)
  | cursors twins => exact .none

/-- Twin objects hold the same shares of their units, so the last one goes on both sides or on neither. -/
theorem drop (objects : P.Objects m o o') :
    Twinned m P.Joined P.Joined (fun _ _ _ => True) (o.drop E) (o'.drop E) := by
  cases objects with
  | unit inUse => exact Pairing.drop
  | file files =>
    change Twinned m P.Joined P.Joined _ (TranslationUnit.drop E _) (TranslationUnit.drop E _)
    rw [files.unit, files.unit']
    exact Pairing.drop
  | cursor twins => exact twins.drop
  | cursors twins =>
    change Twinned m P.Joined P.Joined _ (TranslationUnit.drop E _) (TranslationUnit.drop E _)
    rw [twins.unit, twins.unit']
    exact Pairing.drop

end Objects

/-- The same answer and the same object in either run. -/
structure Outcomes (P : Pairing σ) (m : Matching) (o o' : Outcome) : Prop where
  reply : m.Replies o.reply o'.reply
  made : Option.Rel (P.Objects m) o.made o'.made

theorem Outcomes.mono {o o' : Outcome} (outcomes : P.Outcomes m o o') (grown : m.Grows m') : P.Outcomes m' o o' where
  reply := outcomes.reply.mono grown
  made := by
    have made := outcomes.made
    revert made
    generalize o.made = o
    generalize o'.made = o'
    rintro (objects | _)
    · exact .some (objects.mono grown)
    · exact .none

/-- Answers in which no handle shows, with no object made. -/
theorem Outcomes.plain {r : Reply} (plain : r.Plain) : P.Outcomes m ⟨r, none⟩ ⟨r, none⟩ := ⟨.same plain, .none⟩

theorem Objects.outcome {o o' : Object} (objects : P.Objects m o o') (working : P.Working m w v) :
    P.Outcomes m (.of o w) (.of o' v) := ⟨objects.reply working, .some objects⟩

end Pairing

/-! ## Questions -/

namespace Twinned

variable {P : Pairing σ} {m : Matching} {good : Matching → α → α → Prop}

private theorem made {o o' : Object} (objects : P.Objects m o o') :
    Twinned m P.Focused P.Focused (fun m => SameResult (P.Outcomes m)) (Question.ask.made o : Inspect σ Outcome).run
      (Question.ask.made o' : Inspect σ Outcome).run :=
  .read fun _ _ _ grown focused => .ok fun _ grown' => ((objects.mono grown).outcome focused.world).mono grown'

private theorem make {wrap : α → Object} {work other : Action σ α}
    (twins : Twinned m P.Working P.Working good work other)
    (objects : ∀ m a a', good m a a' → P.Objects m (wrap a) (wrap a')) :
    Twinned m P.Focused P.Focused (fun m => SameResult (P.Outcomes m)) (Question.ask.make wrap work).run
      (Question.ask.make wrap other).run :=
  (Twinned.lift (.perform twins)).next fun _ _ _ _ matched => made (objects _ _ _ matched)

/-- Answers that are the same and make no object. -/
theorem answer {S T ε : Type} {states : Matching → S → T → Prop} {work : ExceptT ε (StateM S) α}
    {other : ExceptT ε (StateM T) α} (twins : Twinned m states states (fun _ => SameResult Eq) work.run other.run)
    (reply : α → Reply) (plain : ∀ a, (reply a).Plain) :
    Twinned m states states (fun m => SameResult (P.Outcomes m))
      (work >>= fun a => (Pure.pure ⟨reply a, none⟩ : ExceptT ε (StateM S) Outcome)).run
      (other >>= fun a => (Pure.pure ⟨reply a, none⟩ : ExceptT ε (StateM T) Outcome)).run := by
  refine twins.next fun _ a _ _ same => ?_
  subst same
  exact .ok fun _ _ => .plain (plain a)

private theorem settleKind {result : Except Error α} :
    Twinned m P.Focused P.Focused (fun _ => SameResult Eq) (Question.ask.settleKind result : Inspect σ α).run
      (Question.ask.settleKind result : Inspect σ α).run := by
  cases result with
  | error e => exact .lift (.throw e)
  | ok a => exact .lift (.ok fun _ _ => rfl)

end Twinned

/-- Whatever twins are asked. -/
theorem Isolated.question {P : Pairing σ} {m : Matching} {E : Engine σ} {elsewhere : CString → Prop}
    (isolated : Isolated E elsewhere P.same) (q : Question) :
    Twinned m P.Focused P.Focused (fun m => SameResult (P.Outcomes m)) (q.ask E).run (q.ask E).run := by
  cases q with
  | view =>
    refine Twinned.receiver.next fun m₁ c c' _ twins => .read fun m₂ f g grown focused => ?_
    have views := (twins.mono grown).view focused.world
    exact .ok fun m₃ grown' => ⟨.cursor (views.mono grown'), .none⟩
  | copy => exact Twinned.receiver.next fun m₁ c c' _ twins => .make twins.clone fun _ _ _ => .cursor
  | unit =>
    refine Twinned.receiver.next fun m₁ c c' _ twins => ?_
    rcases twins.unit with ⟨rfl, rfl⟩ | ⟨inUse, unit, unit'⟩
    · exact .ok fun _ _ => .plain trivial
    · rw [unit, unit']
      refine .make (Pairing.clone inUse) fun _ _ _ same => ?_
      obtain ⟨rfl, rfl⟩ := same
      exact .unit inUse
  | kind =>
    refine Twinned.receiver.next fun m₁ c c' _ twins => ?_
    rw [m₁.cursor_kind twins.raw]
    refine Twinned.settleKind.next fun _ kind _ _ same => ?_
    subst same
    exact Twinned.settleKind.answer (fun name => .kind kind name) fun _ => trivial
  | spelling => exact isolated.spelling.answer .text fun _ => trivial
  | displayName => exact isolated.displayName.answer .text fun _ => trivial
  | usr => exact isolated.usr.answer .text fun _ => trivial
  | hash => exact isolated.hash.answer (fun word => .number word.toNat) fun _ => trivial
  | link l => exact (isolated.link l).next fun m₁ c c' _ twins => .make twins.clone fun _ _ _ => .cursor
  | test t => exact (isolated.test t).answer .flag fun _ => trivial
  | briefComment => exact isolated.briefComment.answer .optionalText fun _ => trivial
  | rawComment => exact isolated.rawComment.answer .optionalText fun _ => trivial
  | bitFieldWidth => exact isolated.bitFieldWidth.answer (fun width => .number width) fun _ => trivial
  | children => exact isolated.children_sequence.next fun _ _ _ _ twins => .made (.cursors twins)
  | arguments => exact isolated.arguments_sequence.next fun _ _ _ _ twins => .made (.cursors twins)

end HandleGraph
