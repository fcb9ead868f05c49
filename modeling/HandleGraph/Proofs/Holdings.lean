import HandleGraph.Proofs.Growth
import HandleGraph.Session.Object
import Mathlib.Algebra.BigOperators.Group.Multiset.Basic
import Mathlib.Tactic.Abel

/-! # What objects hold

The owners that an object stands for, and what makes an object sound: its units are known, its handles
are not null and come from its unit. Sound objects stay sound in later books.

A cursor is taken together with all the cursors that it remembers, which share its unit and generation.
-/

namespace HandleGraph

/-! ## Cursors that remember cursors -/

private theorem Link.mem_all (l : Link) : l ∈ Link.all := by cases l <;> decide

namespace Memo

private theorem sizeOf_lt_of_link {m : Memo Cursor} {l : Link} {c : Cursor} (remembered : m.link l = some c) :
    sizeOf c < sizeOf m := by
  cases m
  cases l <;> obtain rfl : _ = some c := remembered <;> simp only [mk.sizeOf_spec, Option.some.sizeOf_spec] <;>
    omega

private theorem setLink_setLink {γ : Type} (m : Memo γ) (l : Link) (c d : γ) :
    (m.setLink l c).setLink l d = m.setLink l d := by
  cases l <;> rfl

@[simp] theorem link_empty {γ : Type} (l : Link) : (empty : Memo γ).link l = none := by cases l <;> rfl

end Memo

namespace Cursor

/-- A cursor but for what it remembers. -/
def place (c : Cursor) : CursorHandle × Option TranslationUnit × UInt64 := (c.raw, c.unit, c.generation)

/-- What holds of a cursor when it holds of those that it remembers, holds of every cursor. -/
theorem memoInduction {motive : Cursor → Prop}
    (step : ∀ c : Cursor, (∀ l d, c.memo.link l = some d → motive d) → motive c) (c : Cursor) :
    motive c := by
  refine (measure (sizeOf : Cursor → Nat)).wf.induction c fun c ih => step c fun l d remembered => ih d ?_
  have smaller := Memo.sizeOf_lt_of_link remembered
  cases c
  simp only [WellFoundedRelation.rel, InvImage, mk.sizeOf_spec] at smaller ⊢
  omega

/-- The cursor at the end of a chain of links, as far as it is remembered. -/
def follow (c : Cursor) : List Link → Option Cursor
  | [] => some c
  | l :: path => c.memo.link l >>= (follow · path)

@[simp] theorem follow_nil (c : Cursor) : c.follow [] = some c := rfl

theorem follow_cons (c : Cursor) (l : Link) (path : List Link) :
    c.follow (l :: path) = c.memo.link l >>= (follow · path) := rfl

end Cursor

/-! ## Owners -/

theorem Owner.mem_sum_map {α : Type} {f : α → Multiset Owner} {items : List α} {o : Owner} :
    o ∈ (items.map f).sum ↔ ∃ a ∈ items, o ∈ f a := by
  induction items with
  | nil => simp
  | cons first rest ih => simp [ih]

/-- The owners in a cursor, those in what it remembers included. -/
def Cursor.owners (c : Cursor) : Multiset Owner := ↑(c.owned.map Owner.unit)

namespace Memo

def ownersAt (m : Memo Cursor) (l : Link) : Multiset Owner := (m.link l).elim 0 Cursor.owners

def owners (m : Memo Cursor) : Multiset Owner := (Link.all.map m.ownersAt).sum

@[simp] theorem owners_empty : (empty : Memo Cursor).owners = 0 := rfl

private theorem mem_owners_iff {m : Memo Cursor} {o : Owner} :
    o ∈ m.owners ↔ ∃ l c, m.link l = some c ∧ o ∈ c.owners := by
  rw [owners, Owner.mem_sum_map]
  constructor
  · rintro ⟨l, -, own⟩
    cases remembered : m.link l with
    | none => simp [ownersAt, remembered] at own
    | some c => exact ⟨l, c, remembered, by simpa [ownersAt, remembered] using own⟩
  · rintro ⟨l, c, remembered, own⟩
    exact ⟨l, l.mem_all, by simpa [ownersAt, remembered] using own⟩

/-- Memos that agree along the links own the same. -/
theorem owners_congr {m other : Memo Cursor} (same : ∀ l, m.link l = other.link l) :
    m.owners = other.owners :=
  congrArg List.sum (List.map_congr_left fun l _ => by simp only [ownersAt, same])

/-- To remember another cursor behind a link is to exchange what is owned there. -/
theorem owners_setLink (m : Memo Cursor) (l : Link) (c : Cursor) :
    (m.setLink l c).owners + m.ownersAt l = c.owners + m.owners := by
  simp only [owners, Link.all, List.map_cons, List.map_nil, List.sum_cons, List.sum_nil, ownersAt,
    link_setLink]
  cases l <;> simp only [reduceCtorEq, ↓reduceIte, Option.elim_some] <;> abel

end Memo

namespace Cursor

private theorem owners_ownedBy (c : Option Cursor) :
    (↑((ownedBy c).map Owner.unit) : Multiset Owner) = c.elim 0 owners := by
  cases c <;> simp [owners, ownedBy]

/-- A cursor owns its unit, and whatever it remembers owns the rest. -/
theorem owners_eq (c : Cursor) : c.owners = ↑(c.unit.toList.map Owner.unit) + c.memo.owners := by
  obtain ⟨raw, unit, generation, memo⟩ := c
  cases memo
  simp only [owners, owned, Memo.owned, List.map_append, ← Multiset.coe_add, owners_ownedBy, Memo.owners,
    Link.all, List.map_cons, List.map_nil, List.sum_cons, List.sum_nil, Memo.ownersAt, Memo.link, add_zero,
    add_assoc]

/-- What a memo gains in owners the cursor gains. -/
theorem owners_remember (c : Cursor) {m : Memo Cursor} {gained : Multiset Owner}
    (memo : m.owners = gained + c.memo.owners) : owners { c with memo := m } = gained + c.owners := by
  rw [owners_eq, owners_eq c]
  simp only [memo, add_left_comm]

/-- The owners behind a link are told apart from the others, which stay when the cursor there changes. -/
theorem exists_owners_setLink {c d : Cursor} {l : Link} (remembered : c.memo.link l = some d) :
    ∃ rest, c.owners = d.owners + rest ∧
      ∀ e, owners { c with memo := c.memo.setLink l e } = e.owners + rest := by
  obtain ⟨raw, unit, generation, memo⟩ := c
  refine ⟨owners ⟨raw, unit, generation, memo.setLink l null⟩, ?_, fun e => ?_⟩
  · have exchanged := memo.owners_setLink l null
    rw [Memo.ownersAt, show memo.link l = some d from remembered, Option.elim_some, add_comm] at exchanged
    exact owners_remember ⟨raw, unit, generation, memo.setLink l null⟩ (exchanged.trans (zero_add _)).symm
  · have exchanged := (memo.setLink l null).owners_setLink l e
    rw [Memo.setLink_setLink, Memo.ownersAt, Memo.link_setLink, if_pos rfl] at exchanged
    exact owners_remember ⟨raw, unit, generation, memo.setLink l null⟩ ((add_zero _).symm.trans exchanged)

@[simp] theorem owners_null : null.owners = 0 := rfl

@[simp] theorem owners_fresh (raw : CursorHandle) (u : TranslationUnit) (generation : UInt64) :
    owners ⟨raw, some u, generation, .empty⟩ = {.unit u} := rfl

/-- A cursor owns the units of the cursors that can be reached in its memory. -/
theorem mem_owners_iff {c : Cursor} {o : Owner} :
    o ∈ c.owners ↔ ∃ path d u, c.follow path = some d ∧ d.unit = some u ∧ o = .unit u := by
  induction c using memoInduction with
  | step c ih =>
    rw [owners_eq, Multiset.mem_add, Memo.mem_owners_iff]
    constructor
    · rintro (own | ⟨l, d, remembered, own⟩)
      · obtain ⟨u, here, rfl⟩ : ∃ u, c.unit = some u ∧ Owner.unit u = o := by simpa using own
        exact ⟨[], c, u, rfl, here, rfl⟩
      · obtain ⟨path, e, u, reached, here, rfl⟩ := (ih l d remembered).mp own
        exact ⟨l :: path, e, u, by simpa [follow_cons, remembered] using reached, here, rfl⟩
    · rintro ⟨path, e, u, reached, here, rfl⟩
      cases path with
      | nil =>
        obtain rfl : c = e := Option.some.inj reached
        exact .inl (by simp [here])
      | cons l path =>
        rw [follow_cons, Option.bind_eq_bind, Option.bind_eq_some_iff] at reached
        obtain ⟨d, remembered, reached⟩ := reached
        exact .inr ⟨l, d, remembered, (ih l d remembered).mpr ⟨path, e, u, reached, here, rfl⟩⟩

end Cursor

def Object.owners : Object → Multiset Owner
  | .index i => {.index i}
  | .unit u => {.unit u}
  | .file f => {.unit f.unit}
  | .cursor c => c.owners
  | .cursors s => {.unit s.unit}

/-! ## Sound objects -/

/-- A position in a unit as of a generation, got from the unit. -/
structure Cursor.Live (b : Books) (u : TranslationUnit) (generation : UInt64) (c : Cursor) : Prop where
  unit : c.unit = some u
  generation : c.generation = generation
  known : u.cell < b.units.length
  valid : c.raw.isNull = false
  source : CursorOf b.calls (u.raw b) c.raw

/-- A live cursor that remembers cursors of the same unit and generation. The null cursor is one of every
unit. -/
inductive Cursor.Rooted (b : Books) (u : TranslationUnit) (generation : UInt64) : Cursor → Prop
  | absent : Rooted b u generation .null
  | position {c : Cursor} (live : c.Live b u generation)
      (links : ∀ l d, c.memo.link l = some d → Rooted b u generation d) : Rooted b u generation c

/-- The handles of a sequence are those of cursors of its unit. -/
structure CursorSequence.Sound (b : Books) (s : CursorSequence) : Prop where
  known : s.unit.cell < b.units.length
  children : ∀ raws, s.source = .children raws →
    ∀ raw ∈ raws, raw.isNull = false ∧ CursorOf b.calls (s.unit.raw b) raw
  parent : ∀ raw count, s.source = .arguments raw count →
    raw.isNull = false ∧ CursorOf b.calls (s.unit.raw b) raw

/-- The handle of a file is that of a file of its unit. -/
structure File.Sound (b : Books) (f : File) : Prop where
  known : f.unit.cell < b.units.length
  valid : f.raw.isNull = false
  source : FileOf b.calls (f.unit.raw b) f.raw

/-- An object whose handles come from its unit. Cursors and sequences are of a given unit and
generation. -/
def Object.Of (b : Books) (u : TranslationUnit) (generation : UInt64) : Object → Prop
  | .index _ => True
  | .unit v => v.cell < b.units.length
  | .file f => f.Sound b
  | .cursor c => c.Rooted b u generation
  | .cursors s => s.Sound b ∧ s.unit = u ∧ s.generation = generation

def Object.Sound (b : Books) (o : Object) : Prop := ∃ u generation, o.Of b u generation

variable {b later : Books} {u : TranslationUnit} {generation : UInt64}

/-- A cursor is live in later books as well. -/
theorem Cursor.Live.mono (grown : b.Extends later) {c : Cursor} (live : c.Live b u generation) :
    c.Live later u generation where
  unit := live.unit
  generation := live.generation
  known := live.known.trans_le grown.units_length
  valid := live.valid
  source := by
    rw [grown.unit_raw live.known]
    exact live.source.mono grown.calls.subset

namespace Cursor.Rooted

theorem mono (grown : b.Extends later) {c : Cursor} (rooted : c.Rooted b u generation) :
    c.Rooted later u generation := by
  induction rooted with
  | absent => exact .absent
  | position live _ ih => exact .position (live.mono grown) ih

/-- What a rooted cursor remembers is rooted in the same unit and generation. -/
theorem link {c d : Cursor} (rooted : c.Rooted b u generation) {l : Link}
    (remembered : c.memo.link l = some d) : d.Rooted b u generation := by
  cases rooted with
  | absent => simp [null] at remembered
  | position _ links => exact links l d remembered

/-- A rooted cursor that has a unit is live there. -/
theorem live {c : Cursor} (rooted : c.Rooted b u generation) {v : TranslationUnit}
    (here : c.unit = some v) : c.Live b u generation := by
  cases rooted with
  | absent => cases here
  | position live _ => exact live

/-- A live cursor may remember any cursors of its unit and generation. -/
theorem remember {c : Cursor} (rooted : c.Rooted b u generation) {v : TranslationUnit}
    (here : c.unit = some v) {m : Memo Cursor}
    (links : ∀ l d, m.link l = some d → d.Rooted b u generation) :
    Cursor.Rooted b u generation { c with memo := m } := by
  obtain ⟨unit, generation, known, valid, source⟩ := rooted.live here
  exact .position ⟨unit, generation, known, valid, source⟩ links

/-- A cursor that remembers another behind a link may remember any of its unit and generation there. -/
theorem setLink {c d e : Cursor} (rooted : c.Rooted b u generation) {l : Link}
    (remembered : c.memo.link l = some d) (next : e.Rooted b u generation) :
    Cursor.Rooted b u generation { c with memo := c.memo.setLink l e } := by
  have links (other : Link) (x : Cursor) (there : (c.memo.setLink l e).link other = some x) :
      x.Rooted b u generation := by
    rw [Memo.link_setLink] at there
    split_ifs at there with here
    · exact Option.some.inj there ▸ next
    · exact rooted.link there
  cases rooted with
  | absent => simp [null] at remembered
  | position live _ => exact (Rooted.position live ‹_›).remember live.unit links

/-- Whatever is reached along a path is rooted there as well, by induction on it. -/
theorem follow {c d : Cursor} (rooted : c.Rooted b u generation) {path : List Link}
    (reached : c.follow path = some d) : d.Rooted b u generation := by
  induction path generalizing c with
  | nil => exact Option.some.inj reached ▸ rooted
  | cons l path ih =>
    rw [follow_cons, Option.bind_eq_bind, Option.bind_eq_some_iff] at reached
    obtain ⟨next, remembered, reached⟩ := reached
    exact ih (rooted.link remembered) reached

/-- A cursor that leads to one with a unit has the unit itself. -/
theorem unit_of_follow {c d : Cursor} (rooted : c.Rooted b u generation) {path : List Link}
    (reached : c.follow path = some d) {v : TranslationUnit} (there : d.unit = some v) :
    c.unit = some v := by
  have same : v = u := Option.some.inj (there.symm.trans ((rooted.follow reached).live there).unit)
  cases rooted with
  | absent =>
    cases path with
    | nil => exact Option.some.inj reached ▸ there
    | cons l path => cases l <;> cases reached
  | position live _ => exact same ▸ live.unit

end Cursor.Rooted

theorem CursorSequence.Sound.mono (grown : b.Extends later) {s : CursorSequence} (sound : s.Sound b) :
    s.Sound later where
  known := sound.known.trans_le grown.units_length
  children raws source raw member := by
    rw [grown.unit_raw sound.known]
    exact (sound.children raws source raw member).imp_right (·.mono grown.calls.subset)
  parent raw count source := by
    rw [grown.unit_raw sound.known]
    exact (sound.parent raw count source).imp_right (·.mono grown.calls.subset)

theorem File.Sound.mono (grown : b.Extends later) {f : File} (sound : f.Sound b) : f.Sound later where
  known := sound.known.trans_le grown.units_length
  valid := sound.valid
  source := by
    rw [grown.unit_raw sound.known]
    exact sound.source.mono grown.calls.subset

theorem Object.Of.mono (grown : b.Extends later) {o : Object} (sound : o.Of b u generation) :
    o.Of later u generation := by
  cases o with
  | index => trivial
  | unit v => exact Nat.lt_of_lt_of_le sound grown.units_length
  | file f => exact File.Sound.mono grown sound
  | cursor c => exact Cursor.Rooted.mono grown sound
  | cursors s => exact sound.imp_left (·.mono grown)

theorem Object.Sound.mono (grown : b.Extends later) {o : Object} (sound : o.Sound b) : o.Sound later :=
  sound.imp fun _ of => of.imp fun _ of => of.mono grown

end HandleGraph
