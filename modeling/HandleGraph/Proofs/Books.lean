import HandleGraph.Graph.Cursor
import HandleGraph.Graph.CursorSequence
import HandleGraph.Proofs.Ledger
import Mathlib.Data.Multiset.Count
import Mathlib.Logic.Relation

/-! # The books of a world

What a graph does to its cells and to the calls of its engine, in entries of a few kinds. Every entry
says which owners there have to be and which there are afterwards. Work of a graph is a course of
entries, so that whatever every entry keeps, all work keeps.

Only a successful reparse is no entry: it makes a new generation of a unit and is told apart.
-/

namespace HandleGraph

/-- What can be owned: an index, a unit, or a string of the engine, before and after it has been read. -/
inductive Owner where
  | index (i : Index)
  | unit (u : TranslationUnit)
  | string (s : StringHandle) (read : Bool)
deriving DecidableEq

/-- The cells and the calls of a world, without the state of its engine and without events. -/
abbrev Books := World Unit

namespace World

variable {σ : Type}

def books (w : World σ) : Books := ⟨(), w.indexes, w.units, w.calls, []⟩

def log (w : World σ) (call : Call) : World σ := { w with calls := w.calls ++ [call] }

/-- Enter a new index with one owner. -/
def addIndex (w : World σ) (raw : IndexHandle) : World σ :=
  { w with indexes := w.indexes ++ [⟨raw, 1⟩] }

/-- Enter a new unit of an index, with one owner. -/
def addUnit (w : World σ) (raw : UnitHandle) (i : Index) : World σ :=
  { w with units := w.units ++ [⟨raw, i, 0, 1⟩] }

def countIndex (w : World σ) (i : Index) (change : Nat → Nat) : World σ :=
  { w with indexes := w.indexes.modify i.cell fun cell => { cell with owners := change cell.owners } }

def countUnit (w : World σ) (u : TranslationUnit) (change : Nat → Nat) : World σ :=
  { w with units := w.units.modify u.cell fun cell => { cell with owners := change cell.owners } }

/-- Make a new generation of a unit. -/
def renew (w : World σ) (u : TranslationUnit) : World σ :=
  { w with units := w.units.modify u.cell fun cell => { cell with generation := cell.generation + 1 } }

/-- A call receives only what is owned. Strings are told by the entries that read and dispose them. -/
def heldBy (w : World σ) (held : Multiset Owner) : HandleLaw where
  index raw := ∃ i, .index i ∈ held ∧ i.raw w = raw
  unit raw := ∃ u, .unit u ∈ held ∧ u.raw w = raw
  file raw := raw.isNull = false ∧ ∃ u, .unit u ∈ held ∧ FileOf w.calls (u.raw w) raw
  string _ := False
  cursor raw := raw.isNull = false ∧ ∃ u, .unit u ∈ held ∧ CursorOf w.calls (u.raw w) raw

/-- Whoever holds more may ask for no less. -/
theorem heldBy_implies (w : World σ) {held more : Multiset Owner} (subset : held ⊆ more) :
    (w.heldBy held).Implies (w.heldBy more) where
  index := fun ⟨i, own, raw⟩ => ⟨i, subset own, raw⟩
  unit := fun ⟨u, own, raw⟩ => ⟨u, subset own, raw⟩
  file := fun ⟨valid, u, own, source⟩ => ⟨valid, u, subset own, source⟩
  string := id
  cursor := fun ⟨valid, u, own, source⟩ => ⟨valid, u, subset own, source⟩

@[simp] theorem books_calls (w : World σ) : w.books.calls = w.calls := rfl

@[simp] theorem books_indexes (w : World σ) : w.books.indexes = w.indexes := rfl

@[simp] theorem books_units (w : World σ) : w.books.units = w.units := rfl

@[simp] theorem raw_books (w : World σ) (i : Index) : i.raw w.books = i.raw w := rfl

@[simp] theorem unit_raw_books (w : World σ) (u : TranslationUnit) : u.raw w.books = u.raw w := rfl

end World

/-- An entry in the books, with the owners before and after it. -/
inductive Books.Entry : Books × Multiset Owner → Books × Multiset Owner → Prop
  /-- A call by which nothing passes. -/
  | call {b : Books} {held : Multiset Owner} {call : Call} (plain : call.passage? = none)
      (law : call.Obeys (b.heldBy held)) : Entry (b, held) (b.log call, held)
  | openIndex {b : Books} {held : Multiset Owner} {options : IndexOptions} {raw : IndexHandle}
      (valid : raw.isNull = false) :
      Entry (b, held) ((b.log (.asked (.createIndex options) raw)).addIndex raw,
        .index ⟨b.indexes.length⟩ ::ₘ held)
  /-- A new unit takes over an owner of its index. -/
  | openUnit {b : Books} {held : Multiset Owner} {call : Call} {raw : UnitHandle} {i : Index}
      (made : call.passage? = some (.unitMade raw (i.raw b)))
      (law : call.Obeys (b.heldBy (.index i ::ₘ held))) :
      Entry (b, .index i ::ₘ held) ((b.log call).addUnit raw i, .unit ⟨b.units.length⟩ ::ₘ held)
  | ownIndex {b : Books} {held : Multiset Owner} {i : Index}
      (own : .index i ∈ held ∨ ∃ u, .unit u ∈ held ∧ u.index b = i) :
      Entry (b, held) (b.countIndex i (· + 1), .index i ::ₘ held)
  | ownUnit {b : Books} {held : Multiset Owner} {u : TranslationUnit} (own : .unit u ∈ held) :
      Entry (b, held) (b.countUnit u (· + 1), .unit u ::ₘ held)
  | disownIndex {b : Books} {held : Multiset Owner} {i : Index} (more : i.owners b ≠ 1) :
      Entry (b, .index i ::ₘ held) (b.countIndex i (· - 1), held)
  /-- The last owner of an index disposes it. -/
  | closeIndex {b : Books} {held : Multiset Owner} {i : Index} (last : i.owners b = 1) :
      Entry (b, .index i ::ₘ held)
        ((b.countIndex i (· - 1)).log (.asked (.disposeIndex (i.raw b)) ()), held)
  | disownUnit {b : Books} {held : Multiset Owner} {u : TranslationUnit} (more : u.owners b ≠ 1) :
      Entry (b, .unit u ::ₘ held) (b.countUnit u (· - 1), held)
  /-- The last owner of a unit disposes it and is left with the unit's owner of the index. -/
  | closeUnit {b : Books} {held : Multiset Owner} {u : TranslationUnit} (last : u.owners b = 1) :
      Entry (b, .unit u ::ₘ held)
        ((b.countUnit u (· - 1)).log (.asked (.disposeUnit (u.raw b)) ()), .index (u.index b) ::ₘ held)
  | receiveString {b : Books} {held : Multiset Owner} {call : Call} {s : StringHandle}
      (made : call.passage? = some (.stringMade s)) (law : call.Obeys (b.heldBy held)) :
      Entry (b, held) (b.log call, .string s false ::ₘ held)
  | readString {b : Books} {held : Multiset Owner} {s : StringHandle} {text : Option String}
      (valid : s.isNull = false) :
      Entry (b, .string s false ::ₘ held) (b.log (.asked (.readString s) text), .string s true ::ₘ held)
  | disposeString {b : Books} {held : Multiset Owner} {s : StringHandle} (valid : s.isNull = false) :
      Entry (b, .string s true ::ₘ held) (b.log (.asked (.disposeString s) ()), held)

/-- Any number of entries, one after another. -/
abbrev Books.Course : Books × Multiset Owner → Books × Multiset Owner → Prop :=
  Relation.ReflTransGen Books.Entry

end HandleGraph
