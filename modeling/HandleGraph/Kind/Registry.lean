import HandleGraph.Error
import HandleGraph.Kind.Name
import HandleGraph.OrderedMap

/-! # Registries of kinds

A registry gives names to the integers of a native enumeration. It keeps two maps: from integers to kinds,
and from kinds to their names. The first registration of an integer counts and is never overwritten; kinds
are listed in the order of registration. Registries are values, so a copy and its source never affect each
other.
-/

namespace HandleGraph

/-- A type of kinds that wrap a native integer. Kinds are the same when their integers are. -/
class NativeKind (K : Type) where
  same : BEq K
  ofValue : Int32 → K
  value : K → Int32
  value_ofValue : ∀ v, value (ofValue v) = v
  beq_iff : ∀ a b : K, a == b ↔ value a = value b

/-- Kinds are compared as they say, unless they have an equality besides. -/
instance (priority := 100) {K : Type} [NativeKind K] : BEq K := NativeKind.same

instance : NativeKind Int32 where
  same := inferInstance
  ofValue v := v
  value k := k
  value_ofValue _ := rfl
  beq_iff _ _ := beq_iff_eq

structure KindEntry (K : Type) where
  kind : K
  name : String
deriving DecidableEq, Repr

/-- Kinds by integer, and their names by kind. -/
structure KindRegistry (K : Type) where
  kinds : OrderedMap Int32 K
  names : OrderedMap K String
deriving DecidableEq, Repr

namespace KindRegistry

variable {K : Type} [NativeKind K]

def empty : KindRegistry K := ⟨.empty, .empty⟩

instance : Inhabited (KindRegistry K) := ⟨empty⟩

def contains (r : KindRegistry K) (value : Int32) : Bool := (r.kinds.find? value).isSome

def size (r : KindRegistry K) : Nat := r.kinds.entries.length

def isEmpty (r : KindRegistry K) : Bool := r.kinds.entries.isEmpty

/-- The name that is kept for a kind, empty when there is none. -/
def nameOrEmpty (r : KindRegistry K) (kind : K) : String := (r.names.find? kind).getD ""

def entries (r : KindRegistry K) : List (KindEntry K) :=
  r.kinds.values.map fun kind => ⟨kind, r.nameOrEmpty kind⟩

/-- Register a native integer under the name that its enumerator gives. -/
def register (r : KindRegistry K) (value : Int32) (token : String) : Except Error (K × KindRegistry K) :=
  match r.kinds.find? value with
  | some existing => .error (.duplicateKind value (r.nameOrEmpty existing))
  | none =>
    let kind := NativeKind.ofValue value
    .ok (kind, ⟨r.kinds.insert value kind, r.names.insert kind (KindName.normalize token)⟩)

/-- Register integers and enumerators one after another, up to the first duplicate. -/
def registerAll (r : KindRegistry K) : List (Int32 × String) → Except Error (KindRegistry K)
  | [] => .ok r
  | (value, token) :: rest => do
    let (_, r) ← r.register value token
    r.registerAll rest

def lookup (r : KindRegistry K) (value : Int32) : Except Error K :=
  match r.kinds.find? value with
  | some kind => .ok kind
  | none => .error (.unknownKind value)

def name (r : KindRegistry K) (kind : K) : Except Error String :=
  match r.names.find? kind with
  | some name => .ok name
  | none => .error (.unknownKind (NativeKind.value kind))

end KindRegistry

end HandleGraph
