import HandleGraph.Graph.Inspect
import HandleGraph.Graph.TranslationUnit
import HandleGraph.Proofs.Iteration
import HandleGraph.Proofs.ShadowDisposal

/-! # Going through a syntax tree

A client takes the root of a unit, asks each cursor for its children, and goes through them from one end.
Where the lists of children form a finite tree, it comes to an end. It sees the nodes of the tree in preorder,
one walk for each of them, and leaves the graph as it was. A node with a null child cannot be walked over; it
is seen, what is below it is not, and the others are seen as before.

The engine may change its state at every call, as long as it keeps showing the tree. Nothing is claimed
of a unit that is reparsed on the way.
-/

namespace HandleGraph

open Sequence

variable {σ α : Type}

/-! ### The client -/

/-- Work of a client, which may give up. -/
abbrev Client (σ α : Type) := StateT (World σ) Option α

namespace Client

def act (work : Action σ α) : Client σ α := fun w => some (work w)

def inspect (c : Cursor) (work : Inspect σ α) : Client σ (Except Error α × Cursor) :=
  act fun w =>
    let (result, f) := work.run ⟨c, w⟩
    ((result, f.cursor), f.world)

/-- A client goes on from where its first work has come to. -/
theorem bind_of_eq {β : Type} {work : Client σ α} {next : α → Client σ β} {w after : World σ} {a : α}
    (ran : work w = some (a, after)) : (work >>= next) w = next a after := by
  change (work w).bind (fun (a, after) => next a after) = _
  rw [ran]
  rfl

end Client

/-- A cursor that a client has seen, and the failure to get at its children, if there was one. -/
structure Sight where
  raw : CursorHandle
  unit : Option TranslationUnit
  generation : UInt64
  failure : Option Error
deriving DecidableEq

def Cursor.sight (c : Cursor) (failure : Option Error) : Sight := ⟨c.raw, c.unit, c.generation, failure⟩

mutual

/-- See a cursor and everything below it, and let go of it. The fuel bounds how deep calls are nested, since a
tree need not be finite. -/
def visit (E : Engine σ) (side : Side) : Nat → Cursor → Client σ (List Sight)
  | 0, _ => failure
  | fuel + 1, c => do
    let (result, c) ← Client.inspect c (Cursor.children E)
    match result with
    | .error e =>
      Client.act (c.drop E)
      return [c.sight (some e)]
    | .ok s =>
      let below ← visitAll E side fuel s (s.toSequence E).iter
      Client.act (s.drop E)
      Client.act (c.drop E)
      return c.sight none :: below

/-- See the elements that an iterator over a sequence has left, and everything below them. -/
def visitAll (E : Engine σ) (side : Side) : Nat → CursorSequence → Iterator → Client σ (List Sight)
  | 0, _, _ => failure
  | fuel + 1, s, it => do
    let (element, rest) ← Client.act ((s.toSequence E).next side it)
    match element with
    | none => return []
    | some (.error _) => visitAll E side fuel s rest
    | some (.ok child) =>
      let here ← visit E side fuel child
      let later ← visitAll E side fuel s rest
      return here ++ later

end

/-- See everything in a unit. -/
def TranslationUnit.traverse (E : Engine σ) (side : Side) (fuel : Nat) (u : TranslationUnit) :
    Client σ (Except Error (List Sight)) := do
  match ← Client.act (u.root E).run with
  | .error e => return .error e
  | .ok root => return .ok (← visit E side fuel root)

/-! ### Trees -/

/-- A tree of cursors: a cursor, and the trees of what an engine offers as its children. -/
inductive SyntaxTree where
  | node (raw : CursorHandle) (children : List SyntaxTree)

namespace SyntaxTree

def raw : SyntaxTree → CursorHandle
  | node raw _ => raw

def children : SyntaxTree → List SyntaxTree
  | node _ children => children

/-- Whether a null cursor is among the children. -/
def IsBroken (t : SyntaxTree) : Prop := ∃ child ∈ t.children, child.raw.isNull = true

instance (t : SyntaxTree) : Decidable t.IsBroken := inferInstanceAs (Decidable (∃ child ∈ _, _))

mutual

def preorder : SyntaxTree → List CursorHandle
  | node raw children => raw :: preorderAll children

def preorderAll : List SyntaxTree → List CursorHandle
  | [] => []
  | t :: rest => t.preorder ++ preorderAll rest

end

mutual

/-- The tree with the children of each node in their reversed order. -/
def mirror : SyntaxTree → SyntaxTree
  | node raw children => node raw (mirrorAll children)

def mirrorAll : List SyntaxTree → List SyntaxTree
  | [] => []
  | t :: rest => mirrorAll rest ++ [t.mirror]

end

mutual

/-- The tree without what is below a node with a null child. -/
def pruned : SyntaxTree → SyntaxTree
  | node raw children => node raw (if (node raw children).IsBroken then [] else prunedAll children)

def prunedAll : List SyntaxTree → List SyntaxTree
  | [] => []
  | t :: rest => t.pruned :: prunedAll rest

end

mutual

/-- The nodes that are seen from the one end or the other, in this order: none below a node with a null
child. -/
def seen (side : Side) : SyntaxTree → List SyntaxTree
  | node raw children =>
    node raw children :: if (node raw children).IsBroken then [] else seenAll side children

def seenAll (side : Side) : List SyntaxTree → List SyntaxTree
  | [] => []
  | t :: rest =>
    match side with
    | .front => t.seen side ++ seenAll side rest
    | .back => seenAll side rest ++ t.seen side

end

/-- Every cursor that is offered as a child is there. -/
inductive Whole : SyntaxTree → Prop where
  | node {raw : CursorHandle} {children : List SyntaxTree}
      (present : ∀ child ∈ children, child.raw.isNull = false) (below : ∀ child ∈ children, child.Whole) :
      (node raw children).Whole

/-- What holds of a node when it holds of its children holds of every tree. -/
theorem induction {motive : SyntaxTree → Prop}
    (step : ∀ raw children, (∀ child ∈ children, motive child) → motive (node raw children)) :
    ∀ t, motive t :=
  @SyntaxTree.rec motive (fun children => ∀ child ∈ children, motive child) step nofun
    fun _ _ here later _ member => (List.mem_cons.mp member).elim (· ▸ here) (later _)

theorem seenAll_append_back (ts : List SyntaxTree) (t : SyntaxTree) :
    seenAll .back (ts ++ [t]) = t.seen .back ++ seenAll .back ts := by
  induction ts with
  | nil => simp only [List.nil_append, seenAll, List.append_nil]
  | cons first rest ih => simp only [List.cons_append, seenAll, ih, List.append_assoc]

/-- What an iterator has left of several trees. -/
def left (it : Iterator) (ts : List SyntaxTree) : List SyntaxTree := (ts.take it.back).drop it.front

/-- An iterator takes the tree that is seen first. -/
theorem seenAll_left {side : Side} {it rest : Iterator} {index : Nat} {ts : List SyntaxTree}
    (taken : it.take? side = some (index, rest)) (inside : it.back ≤ ts.length) :
    ∃ t, ts[index]? = some t ∧ rest.back ≤ ts.length ∧
      seenAll side (left it ts) = t.seen side ++ seenAll side (left rest ts) := by
  obtain ⟨t, present, within, split⟩ := Iterator.left_of_take? taken inside
  refine ⟨t, present, within, ?_⟩
  cases side with
  | front =>
    have split : left it ts = t :: left rest ts := split
    rw [split]
    rfl
  | back =>
    have split : (left it ts).reverse = t :: (left rest ts).reverse := split
    rw [List.reverse_eq_iff.mp split, List.reverse_cons, List.reverse_reverse, seenAll_append_back]

theorem left_of_none {side : Side} {it : Iterator} (none : it.take? side = none) (ts : List SyntaxTree) :
    left it ts = [] := by
  have front : it.take? .front = .none := Iterator.take?_eq_none_iff.mpr (Iterator.take?_eq_none_iff.mp none)
  exact Iterator.left_of_none front ts

theorem left_iter {m : Type → Type} (s : Sequence m α) {ts : List SyntaxTree}
    (all : s.length = ts.length) : left s.iter ts = ts :=
  Iterator.left_iter s .front all

theorem mem_seenAll {side : Side} {ts : List SyntaxTree} {t n : SyntaxTree} (member : t ∈ ts)
    (seen : n ∈ t.seen side) : n ∈ seenAll side ts := by
  induction ts with
  | nil => cases member
  | cons first rest ih =>
    have either : n ∈ first.seen side ∨ n ∈ seenAll side rest := by
      rcases List.mem_cons.mp member with rfl | later
      · exact .inl seen
      · exact .inr (ih later)
    cases side with
    | front => exact List.mem_append.mpr either
    | back => exact List.mem_append.mpr either.symm

/-- The nodes that are seen are those of the pruned tree in preorder, and from the back in the mirrored
order. -/
theorem map_raw_seen : ∀ t : SyntaxTree,
    (t.seen .front).map raw = t.pruned.preorder ∧ (t.seen .back).map raw = t.pruned.mirror.preorder := by
  refine induction fun top children below => ?_
  have append (ts : List SyntaxTree) (t : SyntaxTree) : preorderAll (ts ++ [t]) = preorderAll ts ++ t.preorder := by
    induction ts with
    | nil => simp only [List.nil_append, preorderAll, List.append_nil]
    | cons first rest ih => simp only [List.cons_append, preorderAll, ih, List.append_assoc]
  have all : (seenAll .front children).map raw = preorderAll (prunedAll children) ∧
      (seenAll .back children).map raw = preorderAll (mirrorAll (prunedAll children)) := by
    induction children with
    | nil => exact ⟨rfl, rfl⟩
    | cons first rest ih =>
      obtain ⟨front, back⟩ := below first List.mem_cons_self
      obtain ⟨laterFront, laterBack⟩ := ih fun child member => below child (List.mem_cons_of_mem _ member)
      exact ⟨by simp only [seenAll, List.map_append, prunedAll, preorderAll, front, laterFront],
        by simp only [seenAll, List.map_append, prunedAll, mirrorAll, append, back, laterBack]⟩
  simp only [seen, pruned, List.map_cons, mirror, preorder, List.cons.injEq, raw, true_and]
  split
  · exact ⟨rfl, rfl⟩
  · exact all

/-- Nothing of a tree without null cursors is lost when it is pruned, and no node of it is broken. -/
theorem pruned_of_whole (side : Side) :
    ∀ t : SyntaxTree, t.Whole → t.pruned = t ∧ ∀ n ∈ t.seen side, ¬ n.IsBroken := by
  refine induction fun top children below whole => ?_
  obtain ⟨present, wholes⟩ := whole
  have unbroken : ¬ (node top children).IsBroken := by
    rintro ⟨child, member, null⟩
    rw [present child member] at null
    cases null
  have all : prunedAll children = children ∧ ∀ n ∈ seenAll side children, ¬ n.IsBroken := by
    clear unbroken present
    induction children with
    | nil => exact ⟨rfl, nofun⟩
    | cons first rest ih =>
      obtain ⟨same, sound⟩ := below first List.mem_cons_self (wholes first List.mem_cons_self)
      obtain ⟨laterSame, laterSound⟩ := ih (fun child member => below child (List.mem_cons_of_mem _ member))
        fun child member => wholes child (List.mem_cons_of_mem _ member)
      refine ⟨by rw [prunedAll, same, laterSame], fun n member => ?_⟩
      cases side with
      | front => exact (List.mem_append.mp member).elim (sound n) (laterSound n)
      | back => exact (List.mem_append.mp member).elim (laterSound n) (sound n)
  simp only [pruned, seen, if_neg unbroken, all.1, true_and]
  exact fun n member => (List.mem_cons.mp member).elim (· ▸ unbroken) (all.2 n)

end SyntaxTree

/-! ### What the client sees -/

/-- The world after further calls and events, which leave its cells alone. -/
def World.noted (w : World σ) (engine : σ) (calls : List Call) (events : List Event) : World σ :=
  { w with engine, calls := w.calls ++ calls, events := w.events ++ events }

/-- Notes one after the other are one note of both. -/
theorem World.noted_noted (w : World σ) (s t : σ) (calls later : List Call) (events more : List Event) :
    (w.noted s calls events).noted t later more = w.noted t (calls ++ later) (events ++ more) := by
  simp only [noted, List.append_assoc]

theorem World.noted_countUnit (w : World σ) (u : TranslationUnit) (f : Nat → Nat) (s : σ) (calls : List Call)
    (events : List Event) : (w.countUnit u f).noted s calls events = (w.noted s calls events).countUnit u f := rfl

/-- To own a unit once more and to let go of it changes nothing. -/
theorem TranslationUnit.drop_clone (E : Engine σ) {w : World σ} {u : TranslationUnit} (owned : 0 < u.owners w) :
    u.drop E (w.countUnit u (· + 1)) = ((), w) := by
  have more : u.owners (w.countUnit u (· + 1)) ≠ 1 := by
    rw [World.unit_owners_countUnit w owned, if_pos rfl]; omega
  refine Prod.ext rfl ((drop_more more).trans ?_)
  have same : (fun cell : UnitCell => { cell with owners := cell.owners - 1 }) ∘
      (fun cell => { cell with owners := cell.owners + 1 }) = id := rfl
  simp only [World.countUnit, List.modify_modify_eq, same, List.modify_id]

/-- While its state is good, the engine offers the children that the nodes have, and its state stays
good. -/
def Offers (E : Engine σ) (good : σ → Prop) (nodes : List SyntaxTree) : Prop :=
  ∀ node ∈ nodes, ∀ s, good s →
    (E.children node.raw Cursor.untilNull s).1 = node.children.map SyntaxTree.raw ∧
      good (E.children node.raw Cursor.untilNull s).2

namespace SyntaxTree

def sight (u : TranslationUnit) (generation : UInt64) (t : SyntaxTree) : Sight :=
  ⟨t.raw, some u, generation, if t.IsBroken then some .childVisitFailed else none⟩

def walked (t : SyntaxTree) : Call := .walked t.raw (Cursor.untilNull.walk (t.children.map raw))

/-- The walk stops at the first null child. -/
theorem walk_of_broken {t : SyntaxTree} (broken : t.IsBroken) :
    (Cursor.untilNull.walk (t.children.map raw)).stopped = true := by
  obtain ⟨top, children⟩ := t
  obtain ⟨child, member, null⟩ := broken
  change child ∈ children at member
  change (Cursor.untilNull.walk (children.map raw)).stopped = true
  induction children with
  | nil => cases member
  | cons first rest ih =>
    cases absent : first.raw.isNull with
    | true => simp [Visitor.walk, Cursor.untilNull, absent]
    | false =>
      rcases List.mem_cons.mp member with rfl | later
      · rw [null] at absent; cases absent
      · simpa [Visitor.walk, Cursor.untilNull, absent] using ih later

/-- Without a null child the walk shows all of them. -/
theorem walk_of_unbroken {t : SyntaxTree} (unbroken : ¬ t.IsBroken) :
    Cursor.untilNull.walk (t.children.map raw) = ⟨t.children.map raw, false⟩ := by
  apply Cursor.walk_of_valid
  intro d member
  obtain ⟨child, here, rfl⟩ := List.mem_map.mp member
  exact Bool.eq_false_iff.mpr fun null => unbroken ⟨child, here, null⟩

end SyntaxTree

section Visits

variable {E : Engine σ} {good : σ → Prop} {u : TranslationUnit} {generation : UInt64} {side : Side}
  {w : World σ} {t : SyntaxTree}

/-- A node on its own, as a cursor of the unit. -/
def SyntaxTree.cursor (u : TranslationUnit) (generation : UInt64) (t : SyntaxTree) : Cursor :=
  ⟨t.raw, some u, generation, .empty⟩

/-- The children of a node, as a cursor of the unit hands them out. -/
def SyntaxTree.sequence (u : TranslationUnit) (generation : UInt64) (ts : List SyntaxTree) : CursorSequence :=
  ⟨u, generation, .children (ts.map raw)⟩

/-- To ask for children is one walk, and to take over what it has shown unless it was stopped. -/
theorem Cursor.children_iff {c : Cursor} {w : World σ} (alive : c.live "get_children" = .ok u)
    {post : Except Error CursorSequence → Focus σ → Prop} :
    Ensures (Cursor.children E) ⟨c, w⟩ post ↔
      let offer := E.children c.raw Cursor.untilNull w.engine
      let walk := Cursor.untilNull.walk offer.1
      if walk.stopped then
        post (.error .childVisitFailed) ⟨c, w.noted offer.2 [.walked c.raw walk] [.nullChild]⟩
      else post (.ok ⟨u, c.generation, .children walk.shown⟩)
        ⟨c, (w.noted offer.2 [.walked c.raw walk] []).countUnit u (· + 1)⟩ := by
  have walked : walkChildren E c.raw Cursor.untilNull w =
      (Cursor.untilNull.walk (E.children c.raw Cursor.untilNull w.engine).1,
        w.noted (E.children c.raw Cursor.untilNull w.engine).2
          [.walked c.raw (Cursor.untilNull.walk (E.children c.raw Cursor.untilNull w.engine).1)] []) := by
    simp only [walkChildren, World.noted, List.append_nil]
  rw [Cursor.children, Ensures.bind_iff, Inspect.receiver_iff]
  simp only [Inspect.lift_iff, Ensures.bind_iff, Ensures.settle_iff, alive, Ensures.perform_iff, walked]
  split_ifs
  · simp only [Ensures.bind_iff, Ensures.perform_iff, report, Ensures.throw_iff, World.noted, List.append_nil]
    exact Iff.rfl
  · exact Iff.rfl

variable (u generation) in
/-- To ask a cursor for its children is one walk. They are handed out unless there is a null one. -/
theorem inspect_children (offers : Offers E good [t]) (present : t.raw.isNull = false) (ready : good w.engine) :
    ∃ s events, good s ∧ Client.inspect (t.cursor u generation) (Cursor.children E) w =
      if t.IsBroken then some ((.error .childVisitFailed, t.cursor u generation), w.noted s [t.walked] events)
      else some ((.ok (SyntaxTree.sequence u generation t.children), t.cursor u generation),
        (w.noted s [t.walked] events).countUnit u (· + 1)) := by
  obtain ⟨offered, kept⟩ := offers t (List.mem_singleton_self t) w.engine ready
  have live : (t.cursor u generation).live "get_children" = .ok u := by
    simp only [SyntaxTree.cursor, Cursor.live, present, Bool.false_eq_true, ↓reduceIte]
  refine ⟨_, if t.IsBroken then [.nullChild] else [], kept,
    (?_ : Ensures (Cursor.children E) ⟨t.cursor u generation, w⟩ fun result f =>
      some ((result, f.cursor), f.world) = _)⟩
  rw [Cursor.children_iff live]
  simp only [SyntaxTree.cursor, offered, SyntaxTree.walked]
  by_cases broken : t.IsBroken
  · simp only [SyntaxTree.walk_of_broken broken, ↓reduceIte, if_pos broken]
  · simp only [SyntaxTree.walk_of_unbroken broken, Bool.false_eq_true, ↓reduceIte, if_neg broken]
    rfl

/-- Work that sees nodes when it has fuel enough, one walk for each of them, from the world `w` on, and leaves the
cells of `v`. -/
def Sees (good : σ → Prop) (u : TranslationUnit) (generation : UInt64) (nodes : List SyntaxTree)
    (work : Nat → Client σ (List Sight)) (w v : World σ) : Prop :=
  ∃ enough s events, good s ∧ ∀ fuel, enough ≤ fuel → work fuel w =
    some (nodes.map (SyntaxTree.sight u generation), v.noted s (nodes.map SyntaxTree.walked) events)

/-- A cursor without memory gives its share back, and the world is as it was. -/
theorem cursor_drop (owned : 0 < u.owners w) :
    (t.cursor u generation).drop E (w.countUnit u (· + 1)) = ((), w) := by
  have own : (t.cursor u generation).owned = [u] := rfl
  rw [Cursor.drop, own]
  exact TranslationUnit.drop_clone E owned

/-- To see a node, given how to see what is below it. -/
theorem visit_sees (offers : Offers E good [t]) (present : t.raw.isNull = false) (ready : good w.engine)
    (owned : 0 < u.owners w)
    (below : ¬ t.IsBroken → ∀ v, good v.engine → 0 < u.owners v →
      Sees good u generation (SyntaxTree.seenAll side t.children)
        (visitAll E side · (SyntaxTree.sequence u generation t.children)
          ((SyntaxTree.sequence u generation t.children).toSequence E).iter) v v) :
    Sees good u generation (t.seen side) (visit E side · (t.cursor u generation))
      (w.countUnit u (· + 1)) w := by
  have more {v : World σ} (owned : 0 < u.owners v) : 0 < u.owners (v.countUnit u (· + 1)) := by
    rw [World.unit_owners_countUnit v owned, if_pos rfl]; omega
  have seen : t.seen side = t :: if t.IsBroken then [] else SyntaxTree.seenAll side t.children := by
    cases t; rw [SyntaxTree.seen]; rfl
  have ready' : good (w.countUnit u (· + 1)).engine := ready
  obtain ⟨s, events, kept, asked⟩ := inspect_children u generation offers present ready'
  rw [World.noted_countUnit] at asked
  have still : 0 < u.owners (w.noted s [t.walked] events) := owned
  by_cases broken : t.IsBroken
  · rw [if_pos broken] at asked seen
    refine ⟨1, s, events, kept, fun fuel enough => ?_⟩
    obtain ⟨fuel, rfl⟩ := Nat.exists_eq_add_of_le' enough
    change visit E side (fuel + 1) (t.cursor u generation) (w.countUnit u (· + 1)) = _
    rw [visit, Client.bind_of_eq asked]
    refine (Client.bind_of_eq (congrArg some (cursor_drop still))).trans ?_
    rw [seen]
    simp only [List.map_cons, List.map_nil, SyntaxTree.sight, if_pos broken]
    rfl
  · rw [if_neg broken] at asked seen
    obtain ⟨least, s', events', kept', all⟩ := below broken
      (((w.noted s [t.walked] events).countUnit u (· + 1)).countUnit u (· + 1)) kept (more (more still))
    rw [World.noted_countUnit, World.noted_countUnit, World.noted_noted] at all
    generalize after : w.noted s' ([t.walked] ++ _) (events ++ events') = v at all
    have still : 0 < u.owners v := after ▸ owned
    refine ⟨least + 1, s', events ++ events', kept', fun fuel enough => ?_⟩
    obtain ⟨fuel, rfl⟩ := Nat.exists_eq_add_of_le' (le_of_add_le_right enough)
    change visit E side (fuel + 1) (t.cursor u generation) (w.countUnit u (· + 1)) = _
    rw [visit, Client.bind_of_eq asked]
    refine (Client.bind_of_eq (all fuel (Nat.le_of_succ_le_succ enough))).trans ?_
    refine (Client.bind_of_eq (congrArg some (TranslationUnit.drop_clone E (more still)))).trans ?_
    refine (Client.bind_of_eq (congrArg some (cursor_drop still))).trans ?_
    rw [← after, seen]
    simp only [List.map_cons, SyntaxTree.sight, if_neg broken]
    rfl

/-- To see what an iterator has left of some trees, given how to see each of them. -/
theorem visitAll_sees {ts : List SyntaxTree} (it : Iterator) (inside : it.back ≤ ts.length)
    (each : ∀ t ∈ ts, ∀ v, good v.engine → 0 < u.owners v →
      Sees good u generation (t.seen side) (visit E side · (t.cursor u generation)) (v.countUnit u (· + 1)) v)
    (ready : good w.engine) (owned : 0 < u.owners w) :
    Sees good u generation (SyntaxTree.seenAll side (SyntaxTree.left it ts))
      (visitAll E side · (SyntaxTree.sequence u generation ts) it) w w := by
  induction size : it.remaining using Nat.strong_induction_on generalizing it w with
  | _ count ih =>
    rcases taken : it.take? side with _ | ⟨index, rest⟩
    · have step : Client.act (((SyntaxTree.sequence u generation ts).toSequence E).next side it) w =
          some ((none, it), w) := by
        rw [Sequence.next, taken]; rfl
      refine ⟨1, w.engine, [], ready, fun fuel enough => ?_⟩
      obtain ⟨fuel, rfl⟩ := Nat.exists_eq_add_of_le' enough
      change visitAll E side (fuel + 1) (SyntaxTree.sequence u generation ts) it w = _
      rw [SyntaxTree.left_of_none taken, visitAll, Client.bind_of_eq step]
      simp only [World.noted, SyntaxTree.seenAll, List.map_nil, List.append_nil]
      rfl
    · obtain ⟨t, present, inside', next⟩ := SyntaxTree.seenAll_left taken inside
      have step : Client.act (((SyntaxTree.sequence u generation ts).toSequence E).next side it) w =
          some ((some (.ok (t.cursor u generation)), rest), w.countUnit u (· + 1)) := by
        have offered : (ts.map SyntaxTree.raw)[index]? = some t.raw := by rw [List.getElem?_map, present]; rfl
        have produced : (SyntaxTree.sequence u generation ts).produce E index =
            perform (Cursor.make t.raw u generation) := by
          simp only [CursorSequence.produce, SyntaxTree.sequence, offered]
        rw [Sequence.next, taken]
        simp only [CursorSequence.toSequence, produced]
        rfl
      have fewer := Iterator.remaining_of_take? taken
      obtain ⟨least, s, events, kept, here⟩ := each t (List.mem_of_getElem? present) w ready owned
      have ready' : good (w.noted s ((t.seen side).map SyntaxTree.walked) events).engine := kept
      obtain ⟨least', s', events', kept', later⟩ := ih rest.remaining (by omega) rest inside' ready' owned rfl
      refine ⟨max least least' + 1, s', events ++ events', kept', fun fuel enough => ?_⟩
      obtain ⟨fuel, rfl⟩ := Nat.exists_eq_add_of_le' (le_of_add_le_right enough)
      have both := max_le_iff.mp (Nat.le_of_succ_le_succ enough)
      change visitAll E side (fuel + 1) (SyntaxTree.sequence u generation ts) it w = _
      rw [visitAll, Client.bind_of_eq step]
      refine (Client.bind_of_eq (here fuel both.1)).trans ((Client.bind_of_eq (later fuel both.2)).trans ?_)
      rw [World.noted_noted, next, List.map_append, List.map_append]
      rfl

variable (generation) in
/-- A client that owns a cursor sees its tree. -/
theorem tree_sees : ∀ (t : SyntaxTree) (w : World σ), Offers E good (t.seen side) → t.raw.isNull = false →
    good w.engine → 0 < u.owners w →
      Sees good u generation (t.seen side) (visit E side · (t.cursor u generation)) (w.countUnit u (· + 1)) w := by
  refine SyntaxTree.induction fun top children below w offers present ready owned => ?_
  have here : Offers E good [.node top children] := by
    intro n member
    obtain rfl := List.mem_singleton.mp member
    exact offers _ (by rw [SyntaxTree.seen]; exact List.mem_cons_self)
  refine visit_sees here present ready owned fun unbroken v ready owned => ?_
  have size : ((SyntaxTree.sequence u generation children).toSequence E).length = children.length :=
    List.length_map _
  have each : ∀ t ∈ children, ∀ v : World σ, good v.engine → 0 < u.owners v →
      Sees good u generation (t.seen side) (visit E side · (t.cursor u generation)) (v.countUnit u (· + 1)) v := by
    intro t member v ready owned
    refine below t member v (fun n seen => offers n ?_) ?_ ready owned
    · rw [SyntaxTree.seen, if_neg unbroken]
      exact List.mem_cons_of_mem _ (SyntaxTree.mem_seenAll member seen)
    · exact Bool.eq_false_iff.mpr fun null => unbroken ⟨t, member, null⟩
  have seen := visitAll_sees ((SyntaxTree.sequence u generation children).toSequence E).iter size.le each ready owned
  rwa [SyntaxTree.left_iter _ size] at seen

end Visits

/-- Going through a unit from its root, with fuel enough. The client sees the nodes of the tree in preorder, and
from the back in the mirrored order, each as a cursor of its own in the same unit and generation. One query for
the root and one walk for each node are all that it asks of the engine, and its cells are left as they were. A
node with a null child fails to give its children, so what is below it is not seen; nothing else is missing and
no other node fails. -/
theorem traversal_reproduces_tree (E : Engine σ) (good : σ → Prop) (u : TranslationUnit) (t : SyntaxTree)
    (side : Side) (w : World σ) (owned : 0 < u.owners w) (ready : good w.engine)
    (root : ∀ s, good s → (E.answer (.rootCursor (u.raw w)) s).1 = t.raw ∧
      good (E.answer (.rootCursor (u.raw w)) s).2)
    (present : t.raw.isNull = false) (offers : Offers E good (t.seen side)) :
    ∃ enough after, (∀ fuel, enough ≤ fuel →
        TranslationUnit.traverse E side fuel u w = some (.ok ((t.seen side).map (·.sight u (u.generation w))), after)) ∧
      after.calls = w.calls ++ .asked (.rootCursor (u.raw w)) t.raw :: (t.seen side).map SyntaxTree.walked ∧
      after.indexes = w.indexes ∧ after.units = w.units ∧ good after.engine ∧
      (t.seen side).map SyntaxTree.raw = (match side with
        | .front => t.pruned.preorder
        | .back => t.pruned.mirror.preorder) ∧
      (t.Whole → t.pruned = t ∧ ∀ n ∈ t.seen side, ¬ n.IsBroken) := by
  obtain ⟨answered, kept⟩ := root w.engine ready
  have rooted : Client.act (u.root E).run w = some (.ok (t.cursor u (u.generation w)),
      (w.noted (E.answer (.rootCursor (u.raw w)) w.engine).2 [.asked (.rootCursor (u.raw w)) t.raw]
        []).countUnit u (· + 1)) := by
    have asked : ask E (.rootCursor (u.raw w)) w = (t.raw,
        w.noted (E.answer (.rootCursor (u.raw w)) w.engine).2 [.asked (.rootCursor (u.raw w)) t.raw] []) := by
      simp only [ask, answered, World.noted, List.append_nil]
    refine (?_ : Ensures (u.root E) w fun result after => some (result, after) = _)
    rw [TranslationUnit.root, Ensures.bind_iff, Ensures.get_iff]
    refine Ensures.bind_iff.mpr (Ensures.perform_iff.mpr ?_)
    rw [asked]
    simp only [present, Bool.false_eq_true, ↓reduceIte]
    rfl
  obtain ⟨enough, s, events, good', sees⟩ := tree_sees (u.generation w) t
    (w.noted (E.answer (.rootCursor (u.raw w)) w.engine).2 [.asked (.rootCursor (u.raw w)) t.raw] []) offers
    present kept owned
  refine ⟨enough, w.noted s (.asked (.rootCursor (u.raw w)) t.raw :: (t.seen side).map SyntaxTree.walked) events,
    fun fuel least => ?_, rfl, rfl, rfl, good', ?_, t.pruned_of_whole side⟩
  · rw [TranslationUnit.traverse, Client.bind_of_eq rooted]
    refine (Client.bind_of_eq (sees fuel least)).trans ?_
    rw [World.noted_noted]
    rfl
  · cases side with
    | front => exact t.map_raw_seen.1
    | back => exact t.map_raw_seen.2

def Sample.parent (children : List Script.CursorSpec) : Script.Node := { Sample.node with children }

/-- An engine that knows a source whose root has two children. The first of them has a null child. -/
def Sample.family : Script.State := {
  sources := [([97], ⟨.text [97], .node 0, [Sample.parent [.node 1, .node 2], Sample.parent [.null],
    Sample.parent [.node 3], Sample.parent []], []⟩)] }

def Sample.member (number : UInt64) : CursorHandle := ⟨300, 0, 2, number, 0⟩

def Sample.familyTree : SyntaxTree :=
  .node (member 1) [.node (member 2) [.node CursorHandle.null []], .node (member 3) [.node (member 4) []]]

/-- From the back the client sees the root, the second child with what is below it, and the first child,
which fails. -/
theorem traversal_reproduces_family :
    let w := (Session.after Script.engine (pure ()) Sample.family (Sample.requests.take 2)).world
    let seen (number : UInt64) (failure : Option Error) : Sight := ⟨Sample.member number, some ⟨0⟩, 0, failure⟩
    0 < TranslationUnit.owners ⟨0⟩ w ∧
      ∃ enough after, (∀ fuel, enough ≤ fuel → TranslationUnit.traverse Script.engine .back fuel ⟨0⟩ w =
        some (.ok [seen 1 none, seen 3 none, seen 4 none, seen 2 (some .childVisitFailed)], after)) ∧
        after.units = w.units := by
  intro w seen
  have owned : 0 < TranslationUnit.owners ⟨0⟩ w := by decide +kernel
  have offers : Offers Script.engine (· = w.engine) (Sample.familyTree.seen .back) := by
    have nodes : Sample.familyTree.seen .back = [Sample.familyTree,
        .node (Sample.member 3) [.node (Sample.member 4) []], .node (Sample.member 4) [],
        .node (Sample.member 2) [.node CursorHandle.null []]] := by rfl
    rw [nodes]
    rintro n member s rfl
    refine ⟨?_, rfl⟩
    simp only [List.mem_cons, List.not_mem_nil, or_false] at member
    rcases member with rfl | rfl | rfl | rfl <;> decide +kernel
  obtain ⟨enough, after, traversed, -, -, units, -⟩ := traversal_reproduces_tree Script.engine (· = w.engine) ⟨0⟩
    Sample.familyTree .back w owned rfl (by rintro s rfl; exact ⟨by decide +kernel, rfl⟩) (by decide) offers
  exact ⟨owned, enough, after, traversed, units⟩

end HandleGraph
