import HandleGraph.Kind.Registry
import HandleGraph.SlotMap

/-! # Families of registries

Several registries under names, each empty until something is registered in it. Every step works on
one of them; copying one replaces what the target held.
-/

namespace HandleGraph.KindRegistry

inductive Step where
  | register (on : String) (value : Int32) (token : String)
  | lookup (on : String) (value : Int32)
  | name (on : String) (value : Int32)
  | contains (on : String) (value : Int32)
  | size (on : String)
  | entries (on : String)
  | copy (on target : String)
deriving DecidableEq, Repr

inductive Reply (K : Type) where
  | done
  | kind (k : K)
  | name (text : String)
  | flag (holds : Bool)
  | size (count : Nat) (isEmpty : Bool)
  | entries (all : List (KindEntry K))
deriving DecidableEq, Repr

variable {K : Type} [NativeKind K]

def slot (family : SlotMap (KindRegistry K)) (name : String) : KindRegistry K :=
  (family.find? name).getD empty

def step (family : SlotMap (KindRegistry K)) : Step → Except Error (Reply K) × SlotMap (KindRegistry K)
  | .register on value token =>
    match (slot family on).register value token with
    | .ok (kind, registry) => (.ok (.kind kind), family.insert on registry)
    | .error e => (.error e, family)
  | .lookup on value => (((slot family on).lookup value).map .kind, family)
  | .name on value => (((slot family on).name (NativeKind.ofValue value)).map .name, family)
  | .contains on value => (.ok (.flag ((slot family on).contains value)), family)
  | .size on => (.ok (.size (slot family on).size (slot family on).isEmpty), family)
  | .entries on => (.ok (.entries (slot family on).entries), family)
  | .copy on target => (.ok .done, family.insert target (slot family on))

def run (family : SlotMap (KindRegistry K)) : List Step → List (Except Error (Reply K))
  | [] => []
  | s :: rest => (step family s).1 :: run (step family s).2 rest

end HandleGraph.KindRegistry
