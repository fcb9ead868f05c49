import HandleGraph.Proofs.InspectOperations

/-! # Cells of a memo

A cursor has one cell for each memoised accessor, and so has every cursor that it remembers. A call of
an accessor fills its own cell and no other, and a filled cell answers every later call by itself. Cells
are told by the chain of links to their cursor.
-/

namespace HandleGraph

variable {σ α : Type} {E : Engine σ}

/-- A memoised accessor, and the cell of a memo that it fills. -/
inductive Cell where
  | spelling
  | displayName
  | hash
  | link (l : Link)
deriving DecidableEq, Repr

/-- What a cell holds. A cursor in a cell is told by its place: its own cells count for themselves. -/
inductive Content where
  | text (t : String)
  | word (n : UInt32)
  | cursor (place : CursorHandle × Option TranslationUnit × UInt64)
deriving DecidableEq

def Cell.call (E : Engine σ) : Cell → Inspect σ Content
  | .spelling => .text <$> Cursor.spelling E
  | .displayName => .text <$> Cursor.displayName E
  | .hash => .word <$> Cursor.hash E
  | .link l => (fun c => .cursor c.place) <$> Cursor.link E l

def Memo.content (m : Memo Cursor) : Cell → Option Content
  | .spelling => m.spelling.map .text
  | .displayName => m.displayName.map .text
  | .hash => m.hash.map .word
  | .link l => (m.link l).map fun c => .cursor c.place

/-- What is in a cell of the cursor at the end of a chain of links. -/
def Cursor.content (c : Cursor) (path : List Link) (cell : Cell) : Option Content :=
  c.follow path >>= (·.memo.content cell)

namespace Memo

private theorem setLink_self {m : Memo Cursor} {l : Link} {c : Cursor} (remembered : m.link l = some c) :
    m.setLink l c = m := by
  cases m
  cases l <;> obtain rfl : _ = some c := remembered <;> rfl

/-- Remembering along a link fills the cell of that link only. -/
theorem content_setLink (m : Memo Cursor) (l : Link) (c : Cursor) (cell : Cell) :
    (m.setLink l c).content cell = if cell = .link l then some (.cursor c.place) else m.content cell := by
  cases cell with
  | link other => simp only [content, link_setLink, Cell.link.injEq]; split_ifs <;> rfl
  | _ => cases l <;> rfl

@[simp] theorem content_empty (cell : Cell) : (empty : Memo Cursor).content cell = none := by
  cases cell <;> simp [content] <;> rfl

end Memo

namespace Cursor

@[simp] theorem content_nil (c : Cursor) (cell : Cell) : c.content [] cell = c.memo.content cell := rfl

private theorem content_cons (c : Cursor) (l : Link) (path : List Link) (cell : Cell) :
    c.content (l :: path) cell = c.memo.link l >>= (·.content path cell) := by
  rw [content, follow_cons]
  cases c.memo.link l <;> rfl

/-- A cursor that remembers nothing has no filled cell. -/
theorem content_of_empty {c : Cursor} (blank : c.memo = .empty) (path : List Link) (cell : Cell) :
    c.content path cell = none := by
  cases path with
  | nil => rw [content_nil, blank, Memo.content_empty]
  | cons l path => rw [content_cons, blank, Memo.link_empty]; rfl

/-- A cursor has become another one by filling empty cells among those that may be filled. -/
structure Fills (may : List Link → Cell → Prop) (c d : Cursor) : Prop where
  place : d.place = c.place
  kept : ∀ path cell v, c.content path cell = some v → d.content path cell = some v
  frame : ∀ path cell, ¬may path cell → d.content path cell = c.content path cell

namespace Fills

variable {may : List Link → Cell → Prop} {c d e : Cursor}

theorem refl (c : Cursor) : c.Fills may c := ⟨rfl, fun _ _ _ filled => filled, fun _ _ _ => rfl⟩

theorem trans (first : c.Fills may d) (second : d.Fills may e) : c.Fills may e where
  place := second.place.trans first.place
  kept path cell v filled := second.kept path cell v (first.kept path cell v filled)
  frame path cell outside := (second.frame path cell outside).trans (first.frame path cell outside)

theorem mono {more : List Link → Cell → Prop} (fills : c.Fills may d)
    (allows : ∀ path cell, may path cell → more path cell) : c.Fills more d where
  place := fills.place
  kept := fills.kept
  frame path cell outside := fills.frame path cell fun allowed => outside (allows path cell allowed)

/-- To fill a cell of the cursor itself is to keep the others, and what is remembered behind links. A new
cursor behind a link remembers nothing. -/
theorem remember {cell : Cell} {m : Memo Cursor} (free : c.memo.content cell = none)
    (others : ∀ other, other ≠ cell → m.content other = c.memo.content other)
    (links : ∀ l x, c.memo.link l = some x → m.link l = some x)
    (blank : ∀ l x, c.memo.link l = none → m.link l = some x → x.memo = .empty) :
    c.Fills (fun path other => path = [] ∧ other = cell) { c with memo := m } := by
  have deeper (l : Link) (path : List Link) (other : Cell) :
      content { c with memo := m } (l :: path) other = c.content (l :: path) other := by
    rw [content_cons, content_cons]
    cases before : c.memo.link l with
    | some x => rw [links l x before]
    | none =>
      cases after : m.link l with
      | none => rfl
      | some x => exact content_of_empty (blank l x before after) path other
  constructor
  case place => rfl
  case kept =>
    intro path other v filled
    cases path with
    | nil =>
      have apart : other ≠ cell := by
        rintro rfl
        rw [content_nil, free] at filled
        cases filled
      exact (others other apart).trans filled
    | cons l path => exact (deeper l path other).trans filled
  case frame =>
    intro path other outside
    cases path with
    | nil => exact others other fun same => outside ⟨rfl, same⟩
    | cons l path => exact deeper l path other

/-- What a remembered cursor has become stays in its place behind the link. -/
theorem within {l : Link} {x y : Cursor} (remembered : c.memo.link l = some x) (fills : x.Fills may y) :
    c.Fills (fun path cell => ∃ rest, path = l :: rest ∧ may rest cell)
      { c with memo := c.memo.setLink l y } := by
  have here (cell : Cell) : (c.memo.setLink l y).content cell = c.memo.content cell := by
    rw [Memo.content_setLink]
    split_ifs with linked
    · rw [linked, Memo.content, remembered, fills.place]
      rfl
    · rfl
  constructor
  case place => rfl
  case kept =>
    intro path cell v filled
    cases path with
    | nil => exact (here cell).trans filled
    | cons other rest =>
      rw [content_cons] at filled ⊢
      rw [Memo.link_setLink]
      split_ifs with same
      · rw [same, remembered] at filled
        exact fills.kept rest cell v filled
      · exact filled
  case frame =>
    intro path cell outside
    cases path with
    | nil => exact here cell
    | cons other rest =>
      rw [content_cons, content_cons, Memo.link_setLink]
      split_ifs with same
      · rw [same, remembered]
        exact fills.frame rest cell fun allowed => outside ⟨rest, same ▸ rfl, allowed⟩
      · rfl

end Fills

end Cursor

/-! ## Calls of accessors -/

/-- Work on a cursor fills empty cells among those that it may fill. -/
def Inspect.Fills (may : List Link → Cell → Prop) (work : Inspect σ α) : Prop :=
  ∀ f, Ensures work f fun _ after => f.cursor.Fills may after.cursor

/-- A memoised accessor is backed by its cell: it recollects what is in the cell and keeps its answer
there, and a new cursor behind a link remembers nothing. -/
structure Cell.Backs (cell : Cell) (wrap : α → Content) (recollect : Memo Cursor → Option α)
    (keep : α → Memo Cursor → Memo Cursor) (work : Cursor → Attempt σ α) : Prop where
  reads : ∀ m, m.content cell = (recollect m).map wrap
  writes : ∀ a m, (keep a m).content cell = some (wrap a)
  others : ∀ a m other, other ≠ cell → (keep a m).content other = m.content other
  links : ∀ a m l c, recollect m = none → m.link l = some c → (keep a m).link l = some c
  blank : ∀ c w, Ensures (work c) w fun result _ => ∀ a, result = .ok a →
    ∀ m l d, m.link l = none → (keep a m).link l = some d → d.memo = .empty

namespace Cell.Backs

variable {cell : Cell} {wrap : α → Content} {recollect : Memo Cursor → Option α}
  {keep : α → Memo Cursor → Memo Cursor} {work : Cursor → Attempt σ α}

/-- An accessor that keeps plain answers leaves all links as they are. -/
theorem of_plain (reads : ∀ m, m.content cell = (recollect m).map wrap)
    (writes : ∀ a m, (keep a m).content cell = some (wrap a))
    (others : ∀ a m other, other ≠ cell → (keep a m).content other = m.content other)
    (same : ∀ a m l, (keep a m).link l = m.link l) : cell.Backs wrap recollect keep work where
  reads := reads
  writes := writes
  others := others
  links a m l c _ remembered := (same a m l).trans remembered
  blank c w := by
    intro a _ m l d absent remembered
    rw [same, absent] at remembered
    cases remembered

private theorem fills (backs : cell.Backs wrap recollect keep work) :
    Inspect.Fills (fun path other => path = [] ∧ other = cell)
      (wrap <$> Inspect.memoised recollect keep work) := by
  intro f
  rw [Ensures.map_iff, Inspect.memoised_iff]
  cases known : recollect f.cursor.memo with
  | some a => exact .refl _
  | none =>
    apply (backs.blank f.cursor f.world).mono
    rintro (e | a) w blank
    · exact .refl _
    · refine .remember ?_ (backs.others a _) (fun l x => backs.links a _ l x known) fun l x => blank a rfl _ l x
      rw [backs.reads, known]
      rfl

/-- An answer is in the cell afterwards. -/
theorem filled (backs : cell.Backs wrap recollect keep work) (f : Focus σ) :
    Ensures (wrap <$> Inspect.memoised recollect keep work) f fun result after =>
      ∀ v, result = .ok v → after.cursor.memo.content cell = some v := by
  rw [Ensures.map_iff, Inspect.memoised_iff]
  cases known : recollect f.cursor.memo with
  | some a =>
    rintro v ⟨⟩
    rw [backs.reads, known]
    rfl
  | none =>
    unfold Ensures
    rcases (work f.cursor).run f.world with ⟨e | a, w⟩
    · nofun
    · rintro v ⟨⟩
      exact backs.writes a _

/-- A filled cell answers without any work. -/
theorem recalls (backs : cell.Backs wrap recollect keep work) {f : Focus σ} {v : Content}
    (filled : f.cursor.memo.content cell = some v) :
    Ensures (wrap <$> Inspect.memoised recollect keep work) f fun result after =>
      result = .ok v ∧ after = f := by
  rw [backs.reads] at filled
  obtain ⟨a, known, rfl⟩ := Option.map_eq_some_iff.mp filled
  rw [Ensures.map_iff, Inspect.memoised_iff, known]
  exact ⟨rfl, rfl⟩

end Cell.Backs

namespace Cell

/-- A new cursor that a link leads to remembers nothing. -/
theorem queryLink_blank (l : Link) (c : Cursor) :
    Returns (fun d => d.memo = .empty) (Cursor.queryLink E l c) := by
  refine Returns.bind fun u => Returns.bind fun raw => ?_
  split_ifs
  · exact Returns.bind fun _ => Returns.pure rfl
  · exact Returns.throw
  · exact Returns.bind fun _ => Returns.perform fun w => rfl

theorem spelling_backs (work : Cursor → Attempt σ String) :
    Backs .spelling .text (·.spelling) (fun text m => { m with spelling := some text }) work := by
  refine .of_plain (fun _ => rfl) (fun _ _ => rfl) (fun t m other apart => ?_) fun _ _ l => by cases l <;> rfl
  cases other <;> first | rfl | exact absurd rfl apart

theorem displayName_backs (work : Cursor → Attempt σ String) :
    Backs .displayName .text (·.displayName) (fun text m => { m with displayName := some text }) work := by
  refine .of_plain (fun _ => rfl) (fun _ _ => rfl) (fun t m other apart => ?_) fun _ _ l => by cases l <;> rfl
  cases other <;> first | rfl | exact absurd rfl apart

theorem hash_backs (work : Cursor → Attempt σ UInt32) :
    Backs .hash .word (·.hash) (fun word m => { m with hash := some word }) work := by
  refine .of_plain (fun _ => rfl) (fun _ _ => rfl) (fun t m other apart => ?_) fun _ _ l => by cases l <;> rfl
  cases other <;> first | rfl | exact absurd rfl apart

/-- The cell of a link remembers cursors by their places, since their own memories may grow. -/
theorem link_backs (E : Engine σ) (l : Link) :
    Backs (.link l) (fun c => .cursor c.place) (·.link l) (fun c m => m.setLink l c) (Cursor.queryLink E l) := by
  refine ⟨fun _ => rfl, fun c m => ?_, fun c m other apart => ?_,
    fun c m other d absent remembered => ?_, fun c w => ?_⟩
  · rw [Memo.content_setLink, if_pos rfl]
  · rw [Memo.content_setLink, if_neg apart]
  · have apart : other ≠ l := by
      rintro rfl
      rw [absent] at remembered
      cases remembered
    rw [Memo.link_setLink, if_neg apart, remembered]
  · apply Ensures.mono (queryLink_blank l c w)
    intro result _ blank d same m other x absent remembered
    rw [Memo.link_setLink] at remembered
    split_ifs at remembered with here
    · exact Option.some.inj remembered ▸ blank d same
    · rw [absent] at remembered
      cases remembered

/-- Every memoised accessor is backed by its own cell. -/
theorem backed (E : Engine σ) (cell : Cell) :
    ∃ (α : Type) (wrap : α → Content) (recollect : Memo Cursor → Option α)
      (keep : α → Memo Cursor → Memo Cursor) (work : Cursor → Attempt σ α),
      cell.call E = wrap <$> Inspect.memoised recollect keep work ∧
        cell.Backs wrap recollect keep work := by
  cases cell with
  | spelling => exact ⟨_, _, _, _, _, rfl, spelling_backs _⟩
  | displayName => exact ⟨_, _, _, _, _, rfl, displayName_backs _⟩
  | hash => exact ⟨_, _, _, _, _, rfl, hash_backs _⟩
  | link l => exact ⟨_, _, _, _, _, rfl, link_backs E l⟩

/-- An accessor may fill its own cell in the cursor it works on, and no other. -/
theorem call_fills (cell : Cell) :
    Inspect.Fills (fun path other => path = [] ∧ other = cell) (cell.call E) := by
  obtain ⟨α, wrap, recollect, keep, work, same, backs⟩ := backed E cell
  exact same ▸ backs.fills

/-- A success stays in the cell. -/
theorem call_filled (cell : Cell) (f : Focus σ) :
    Ensures (cell.call E) f fun result after =>
      ∀ v, result = .ok v → after.cursor.memo.content cell = some v := by
  obtain ⟨α, wrap, recollect, keep, work, same, backs⟩ := backed E cell
  exact same ▸ backs.filled f

/-- What is in the cell is given without another call, and nothing changes. -/
theorem call_recalls {cell : Cell} {f : Focus σ} {v : Content}
    (filled : f.cursor.memo.content cell = some v) :
    Ensures (cell.call E) f fun result after => result = .ok v ∧ after = f := by
  obtain ⟨α, wrap, recollect, keep, work, same, backs⟩ := backed E cell
  exact same ▸ backs.recalls filled

end Cell

/-! ## Chains of links -/

/-- The cells that a call at the end of a chain of links may fill: its own, and those of the links on the
way. -/
def Cell.OnTheWay (chain : List Link) (own : Option Cell) (path : List Link) (cell : Cell) : Prop :=
  (path = chain ∧ own = some cell) ∨ ∃ l, cell = .link l ∧ path ++ [l] <+: chain

namespace Cursor

/-- Work along a chain of links fills cells on the way, and those that the work fills at its end when it
comes to a result of a kind. -/
theorem along_fills_when {own : Option Cell} {work : Inspect σ α} (kind : Except Error α → Prop)
    (fills : ∀ f, Ensures work f fun result after =>
      kind result → f.cursor.Fills (fun path cell => path = [] ∧ own = some cell) after.cursor)
    (chain : List Link) (f : Focus σ) :
    Ensures (along E chain work) f fun result after =>
      kind result → f.cursor.Fills (Cell.OnTheWay chain own) after.cursor := by
  induction chain generalizing f with
  | nil => exact (fills f).mono fun _ _ filled here => (filled here).mono fun _ _ here => .inl here
  | cons l chain ih =>
    apply within_iff.mpr
    have called := Ensures.map_iff.mp (Cell.call_fills (E := E) (.link l) f)
    apply (called.and (link_remembers (E := E) l f)).mono
    rintro result middle ⟨first, remembered⟩
    have first : f.cursor.Fills (Cell.OnTheWay (l :: chain) own) middle.cursor := by
      apply first.mono
      rintro path cell ⟨rfl, rfl⟩
      exact .inr ⟨l, rfl, List.prefix_append [l] chain⟩
    cases result with
    | error e => exact fun _ => first
    | ok d =>
      refine (ih ⟨d, middle.world⟩).mono fun _ after worked here => first.trans ?_
      apply ((worked here).within (remembered d rfl)).mono
      rintro _ cell ⟨rest, rfl, ⟨rfl, here⟩ | ⟨other, linked, onTheWay⟩⟩
      · exact .inl ⟨rfl, here⟩
      · exact .inr ⟨other, linked, List.cons_prefix_cons.mpr ⟨rfl, onTheWay⟩⟩

/-- To work along a chain of links is to fill cells on the way, and those that the work fills at its end. -/
theorem along_fills {own : Option Cell} {work : Inspect σ α}
    (fills : work.Fills fun path cell => path = [] ∧ own = some cell) (chain : List Link) :
    (along E chain work).Fills (Cell.OnTheWay chain own) := fun f =>
  (along_fills_when (fun _ => True) (fun f => (fills f).mono fun _ _ filled _ => filled) chain f).mono
    fun _ _ filled => filled trivial

/-- An answer is in its cell at the end of a chain of links. -/
theorem along_filled (chain : List Link) (cell : Cell) (f : Focus σ) :
    Ensures (along E chain (cell.call E)) f fun result after =>
      ∀ v, result = .ok v → after.cursor.content chain cell = some v := by
  apply (along_leaves (fun v d => d.memo.content cell = some v) cell.call_filled chain f).mono
  intro result after left v same
  obtain ⟨d, reached, filled⟩ := left v same
  rw [content, reached]
  exact filled

/-- Work along a remembered chain of links is work at its end. -/
theorem along_at {chain : List Link} {work : Inspect σ α} {f : Focus σ} {c : Cursor}
    {post : Except Error α → Focus σ → Prop} (reached : f.cursor.follow chain = some c)
    (worked : Ensures work ⟨c, f.world⟩ post) :
    Ensures (along E chain work) f fun result after =>
      ∃ d, post result ⟨d, after.world⟩ ∧ after.cursor.follow chain = some d := by
  induction chain generalizing f with
  | nil =>
    obtain ⟨d, w⟩ := f
    obtain rfl : d = c := Option.some.inj reached
    exact Ensures.mono worked fun result after here => ⟨after.cursor, here, rfl⟩
  | cons l chain ih =>
    rw [follow_cons, Option.bind_eq_bind, Option.bind_eq_some_iff] at reached
    obtain ⟨next, remembered, reached⟩ := reached
    apply within_iff.mpr
    rw [link, Inspect.memoised_iff, remembered]
    apply (ih (f := ⟨next, f.world⟩) reached worked).mono
    rintro result after ⟨d, here, there⟩
    exact ⟨d, here, by simpa [follow_cons] using there⟩

/-- Work at the end of a remembered chain of links that leaves its cursor as it is leaves the chain as it
is. -/
theorem along_still {chain : List Link} {work : Inspect σ α} {f : Focus σ} {c : Cursor}
    {post : Except Error α → World σ → Prop} (reached : f.cursor.follow chain = some c)
    (worked : Ensures work ⟨c, f.world⟩ fun result after => after.cursor = c ∧ post result after.world) :
    Ensures (along E chain work) f fun result after => after.cursor = f.cursor ∧ post result after.world := by
  induction chain generalizing f with
  | nil =>
    obtain ⟨d, w⟩ := f
    obtain rfl : d = c := Option.some.inj reached
    exact worked
  | cons l chain ih =>
    obtain ⟨⟨raw, unit, generation, memo⟩, w⟩ := f
    rw [follow_cons, Option.bind_eq_bind, Option.bind_eq_some_iff] at reached
    obtain ⟨next, remembered, reached⟩ := reached
    apply within_iff.mpr
    rw [link, Inspect.memoised_iff, remembered]
    apply (ih (f := ⟨next, w⟩) reached worked).mono
    rintro result after ⟨same, here⟩
    refine ⟨?_, here⟩
    rw [same, Memo.setLink_self remembered]

end Cursor

end HandleGraph
