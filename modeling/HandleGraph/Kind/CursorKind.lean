import HandleGraph.Kind.Builtin
import HandleGraph.Kind.Registry

/-! # Cursor kinds

The classification of a cursor, which is the engine's integer and no more. The builtin kinds have
names; an integer without one is shown by its value. The categories are ranges of the integer and hold
of unnamed kinds as well.
-/

namespace HandleGraph

structure CursorKind where
  value : Int32
deriving DecidableEq, Repr

instance : NativeKind CursorKind where
  same := inferInstance
  ofValue := CursorKind.mk
  value := CursorKind.value
  value_ofValue _ := rfl
  beq_iff a b := by
    obtain ⟨a⟩ := a
    obtain ⟨b⟩ := b
    simp

namespace CursorKind

def registry : KindRegistry CursorKind :=
  match KindRegistry.empty.registerAll Builtin.kinds with
  | .ok r => r
  | .error _ => .empty

def ofValue? (value : Int32) : Except Error CursorKind := registry.lookup value

def name (k : CursorKind) : Except Error String := registry.name k

/-- A kind in a text: its name, or its value where it has none. -/
def describe (k : CursorKind) : String :=
  match k.name with
  | .ok name => name
  | .error _ => "UNKNOWN(" ++ toString k.value.toInt ++ ")"

def debug (k : CursorKind) : String := "CursorKind." ++ k.describe

/-- Kinds are ordered by their values. -/
instance : Ord CursorKind where
  compare a b := compare a.value.toInt b.value.toInt

def sort (kinds : List CursorKind) : List CursorKind :=
  kinds.mergeSort fun a b => a.value.toInt ≤ b.value.toInt

inductive Category where
  | declaration
  | reference
  | expression
  | statement
  | attribute
  | invalid
  | translationUnit
  | preprocessing
  | unexposed
deriving DecidableEq, Repr

def Category.all : List Category :=
  [.declaration, .reference, .expression, .statement, .attribute, .invalid, .translationUnit,
    .preprocessing, .unexposed]

def Category.ranges : Category → List (Int × Int)
  | .declaration => [(1, 39), (600, 699)]
  | .reference => [(40, 50)]
  | .expression => [(100, 199)]
  | .statement => [(200, 349)]
  | .attribute => [(400, 499)]
  | .invalid => [(70, 73)]
  | .translationUnit => [(350, 350)]
  | .preprocessing => [(500, 503)]
  | .unexposed => [(1, 1), (100, 100), (200, 200), (400, 400)]

def inCategory (k : CursorKind) (c : Category) : Bool :=
  c.ranges.any fun (first, last) => first ≤ k.value.toInt && k.value.toInt ≤ last

end CursorKind

end HandleGraph
