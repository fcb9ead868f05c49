import HandleGraph.Graph.CursorSequence
import HandleGraph.Graph.NativeString

/-! # Asking a cursor

Accessors run with a cursor as their state, because they may fill its memo. An answer is remembered
when it is a success, an absent referenced cursor or definition included, and from then on the engine
is not asked for it again. Failures are not remembered. On the null cursor every accessor fails without
asking the engine.

Links lead to remembered cursors, which can be asked in turn and keep what they learn.
-/

namespace HandleGraph

/-- A cursor that is being asked, in its world. -/
structure Focus (σ : Type) where
  cursor : Cursor
  world : World σ

/-- Work on a cursor. What it has done, and what the cursor remembers, stays when it fails. -/
abbrev Inspect (σ α : Type) := ExceptT Error (StateM (Focus σ)) α

namespace Inspect

variable {σ α : Type}

/-- Work on the world alone. -/
def lift (work : Attempt σ α) : Inspect σ α := ExceptT.mk fun f =>
  let (result, world) := work.run f.world
  (result, { f with world })

def receiver : Inspect σ Cursor := return (← get).cursor

def remember (change : Memo Cursor → Memo Cursor) : Inspect σ Unit :=
  modify fun f => { f with cursor := { f.cursor with memo := change f.cursor.memo } }

/-- Answer from memory, or find the answer out and remember it. -/
def memoised (recollect : Memo Cursor → Option α) (keep : α → Memo Cursor → Memo Cursor)
    (work : Cursor → Attempt σ α) : Inspect σ α := do
  let c ← receiver
  match recollect c.memo with
  | some answer => return answer
  | none =>
    let answer ← lift (work c)
    remember (keep answer)
    return answer

/-- Work on another cursor, and see what has become of it. -/
def onOther (work : Inspect σ α) (c : Cursor) : Inspect σ (Except Error α × Cursor) := do
  let f ← get
  let (result, after) := work.run ⟨c, f.world⟩
  set { f with world := after.world }
  return (result, after.cursor)

end Inspect

def Link.operation : Link → String
  | .canonical => "canonical"
  | .semanticParent => "semantic_parent"
  | .lexicalParent => "lexical_parent"
  | .referenced => "referenced"
  | .definition => "get_definition"

/-- Whether a cursor can do without the link. -/
def Link.isOptional : Link → Bool
  | .referenced | .definition => true
  | .canonical | .semanticParent | .lexicalParent => false

def CursorTest.operation : CursorTest → String
  | .isDefinition => "is_definition"
  | .isStaticMethod => "is_static_method"
  | .isBitField => "is_bitfield"

def CursorText.operation : CursorText → String
  | .spelling => "spelling"
  | .displayName => "displayname"
  | .usr => "get_usr"
  | .briefComment => "brief_comment"
  | .rawComment => "raw_comment"

namespace Cursor

variable {σ : Type}

open Inspect

/-- The unit of a cursor, for an operation that cannot do without. -/
def live (c : Cursor) (operation : String) : Except Error TranslationUnit :=
  match c.unit with
  | some u => if c.raw.isNull then .error (.nativeQueryFailed operation) else .ok u
  | none => .error (.nativeQueryFailed operation)

/-- Ask the engine for a text of a cursor that has to have one. -/
def queryText (E : Engine σ) (t : CursorText) (c : Cursor) : Attempt σ String := do
  let _ ← settle (c.live t.operation)
  takeString E (← perform (ask E (.text t c.raw))) t.operation

/-- Ask the engine for a text of a cursor that may lack it. -/
def queryOptionalText (E : Engine σ) (t : CursorText) (c : Cursor) : Attempt σ (Option String) := do
  let _ ← settle (c.live t.operation)
  perform (takeOptionalString E (← perform (ask E (.text t c.raw))))

/-- Ask the engine where a link leads. The result is a cursor of the same generation. -/
def queryLink (E : Engine σ) (l : Link) (c : Cursor) : Attempt σ Cursor := do
  let u ← settle (c.live l.operation)
  let raw ← perform (ask E (.link l c.raw))
  if raw.isNull then
    if l.isOptional then
      perform (report (.linkAbsent l.operation))
      return null
    throw (.nativeQueryFailed l.operation)
  perform (report (.linkCached l.operation))
  perform (make raw u c.generation)

/-- The name of a cursor. -/
def spelling (E : Engine σ) : Inspect σ String :=
  memoised (·.spelling) (fun text m => { m with spelling := some text }) fun c => do
    let text ← c.queryText E .spelling
    perform (report (.spellingCached text))
    return text

/-- The name of a cursor with what tells it from others of that name. -/
def displayName (E : Engine σ) : Inspect σ String :=
  memoised (·.displayName) (fun text m => { m with displayName := some text })
    (queryText E .displayName)

def hash (E : Engine σ) : Inspect σ UInt32 :=
  memoised (·.hash) (fun word m => { m with hash := some word }) fun c => do
    let _ ← settle (c.live "hash")
    perform (ask E (.hash c.raw))

def link (E : Engine σ) (l : Link) : Inspect σ Cursor :=
  memoised (·.link l) (fun c m => m.setLink l c) (queryLink E l)

/-- Work on the remembered cursor behind a link. -/
def within (E : Engine σ) {α : Type} (l : Link) (work : Inspect σ α) : Inspect σ α := do
  let (result, after) ← onOther work (← link E l)
  remember fun m => m.setLink l after
  ExceptT.mk (pure result)

/-- Work on the cursor at the end of a chain of links. -/
def along (E : Engine σ) {α : Type} (path : List Link) (work : Inspect σ α) : Inspect σ α :=
  path.foldr (within E) work

/-- The text that identifies a symbol across translation units. -/
def usr (E : Engine σ) : Inspect σ String := do lift ((← receiver).queryText E .usr)

/-- The first paragraph of the comment on a cursor. -/
def briefComment (E : Engine σ) : Inspect σ (Option String) := do
  lift ((← receiver).queryOptionalText E .briefComment)

def rawComment (E : Engine σ) : Inspect σ (Option String) := do
  lift ((← receiver).queryOptionalText E .rawComment)

def test (E : Engine σ) (t : CursorTest) : Inspect σ Bool := do
  let c ← receiver
  lift do
    let _ ← settle (c.live t.operation)
    perform (ask E (.test t c.raw))

/-- The width of a bit field, and zero for anything else. -/
def bitFieldWidth (E : Engine σ) : Inspect σ Nat := do
  let c ← receiver
  lift do
    let _ ← settle (c.live "get_bitfield_width")
    return (← perform (ask E (.bitWidth c.raw))).toInt.toNat

/-- The visitor that accepts every child and stops at a null one. -/
def untilNull : Visitor := fun child => if child.isNull then .stop else .proceed

/-- The children of a cursor, by one walk. A null child makes the whole of it fail. -/
def children (E : Engine σ) : Inspect σ CursorSequence := do
  let c ← receiver
  lift do
    let u ← settle (c.live "get_children")
    let walk ← perform (walkChildren E c.raw untilNull)
    if walk.stopped then
      perform (report .nullChild)
      throw .childVisitFailed
    return ⟨← perform u.clone, c.generation, .children walk.shown⟩

/-- The arguments of a cursor. Only their number is asked for here. -/
def arguments (E : Engine σ) : Inspect σ CursorSequence := do
  let c ← receiver
  lift do
    let u ← settle (c.live "get_arguments")
    let count ← perform (ask E (.argumentCount c.raw))
    return ⟨← perform u.clone, c.generation, .arguments c.raw count.toInt.toNat⟩

end Cursor

end HandleGraph
