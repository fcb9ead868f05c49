import HandleGraph.Handle.Owned
import HandleGraph.SlotMap

/-! # Families of owners

Owners under names, and the steps that move handles between them. Whatever a step replaces or removes
is dropped after the new owner is made, and the last owners are dropped in order of their names.
-/

namespace HandleGraph.Owned

inductive Step (H D : Type) where
  | adopt (on : String) (raw : H) (disposer : D)
  | empty (on : String) (disposer : D)
  | take (on source : String)
  | swap (on other : String)
  | drop (on : String)
  | get (on : String)
  | release (on : String)
  | reset (on : String) (raw : H)
  | clear (on : String)
  | disposeWith (on : String) (raw : H)
  | validity (on : String)
  | describe (on : String)
deriving DecidableEq, Repr

inductive Reply (H D : Type) where
  | done
  | existed (held : Bool)
  | handle (raw : H)
  | validity (valid null : Bool)
  | owner (o : Owned H D)
  | noSlot (name : String)
deriving DecidableEq, Repr

variable {H D : Type} [NullHandle H]

/-- A family of owners and the disposals of one step. -/
structure Outcome (H D : Type) where
  reply : Reply H D
  slots : SlotMap (Owned H D)
  disposed : List (Disposal H D)

def dropSlot (slots : SlotMap (Owned H D)) (name : String) : List (Disposal H D) :=
  (slots.find? name).elim [] drop

/-- Put a new owner into a slot and drop the one that was there. -/
def store (slots : SlotMap (Owned H D)) (name : String) (o : Owned H D) : Outcome H D :=
  ⟨.done, slots.insert name o, dropSlot slots name⟩

def onSlot (slots : SlotMap (Owned H D)) (name : String) (work : Owned H D → Outcome H D) : Outcome H D :=
  match slots.find? name with
  | some o => work o
  | none => ⟨.noSlot name, slots, []⟩

def step (slots : SlotMap (Owned H D)) : Step H D → Outcome H D
  | .adopt on raw disposer => store slots on ⟨raw, disposer⟩
  | .empty on disposer => store slots on (.empty disposer)
  | .take on source => onSlot slots source fun o => store (slots.insert source o.take.2) on o.take.1
  | .swap on other => onSlot slots on fun a => onSlot slots other fun b =>
    ⟨.done, (slots.insert on b).insert other a, []⟩
  | .drop on => ⟨.existed (slots.find? on).isSome, slots.erase on, dropSlot slots on⟩
  | .get on => onSlot slots on fun o => ⟨.handle o.raw, slots, []⟩
  | .release on => onSlot slots on fun o => ⟨.handle o.release.1, slots.insert on o.release.2, []⟩
  | .reset on raw => onSlot slots on fun o => ⟨.done, slots.insert on (o.reset raw).1, (o.reset raw).2⟩
  | .clear on => onSlot slots on fun o => ⟨.done, slots.insert on o.clear.1, o.clear.2⟩
  | .disposeWith on raw => onSlot slots on fun o => ⟨.done, slots, [⟨o.disposer, raw⟩]⟩
  | .validity on => onSlot slots on fun o => ⟨.validity o.isValid o.isNull, slots, []⟩
  | .describe on => onSlot slots on fun o => ⟨.owner o, slots, []⟩

/-- Drop every owner, in order of the names. -/
def dropAll (slots : SlotMap (Owned H D)) : List (Disposal H D) := slots.values.flatMap drop

/-- Carry out steps one after another. The result holds their outcomes and the last disposals. -/
def run (slots : SlotMap (Owned H D)) : List (Step H D) → List (Outcome H D) × List (Disposal H D)
  | [] => ([], dropAll slots)
  | s :: rest =>
    let outcome := step slots s
    let (outcomes, last) := run outcome.slots rest
    (outcome :: outcomes, last)

end HandleGraph.Owned
