import HandleGraph.Proofs.Failure
import HandleGraph.Proofs.ParallelSessions

/-! # Runs in parallel

Two runs of requests carry out the same ones on a unit, in the same order, and may differ in all others. Sessions
that house the unit in parallel go on doing so, whichever run takes its turn.
-/

namespace HandleGraph

variable {σ : Type} {E : Engine σ} {load : Loading σ Unit} {mine : String → Bool} {elsewhere : CString → Prop}
  {u u' : TranslationUnit}

/-! ## Requests on a unit and on others -/

def Request.touches (mine : String → Bool) (r : Request) : Bool := r.slots.any mine

/-- A request that names a slot of the family is on the objects in it, or it lends the index. -/
structure Request.Proper (mine : String → Bool) (r : Request) : Prop where
  graph : r.command.OnGraph
  touching : r.touches mine → r.Inside (mine ·) ∨ r.Lends mine

private theorem Request.Proper.outside {r : Request} (proper : r.Proper mine) (other : r.touches mine = false) :
    r.Outside mine :=
  ⟨proper.graph, fun slot member => by simpa using List.any_eq_false.mp other slot member⟩

/-- Requests in two orders in which the chosen ones are the same, with others in between. -/
inductive SharesOwn (own : Request → Bool) : List Request → List Request → Prop
  | nil : SharesOwn own [] []
  | left {r : Request} {later later' : List Request} (other : own r = false) (rest : SharesOwn own later later') :
      SharesOwn own (r :: later) later'
  | right {r : Request} {later later' : List Request} (other : own r = false) (rest : SharesOwn own later later') :
      SharesOwn own later (r :: later')
  | both {r : Request} {later later' : List Request} (chosen : own r = true) (rest : SharesOwn own later later') :
      SharesOwn own (r :: later) (r :: later')

theorem SharesOwn.of_filter {own : Request → Bool} {later later' : List Request}
    (same : later.filter own = later'.filter own) : SharesOwn own later later' := by
  induction later generalizing later' with
  | nil =>
    induction later' with
    | nil => exact .nil
    | cons r rest ih =>
      cases chosen : own r with
      | true => simp [chosen] at same
      | false => exact .right chosen (ih (by simpa [chosen] using same))
  | cons r later ih =>
    cases chosen : own r with
    | false => exact .left chosen (ih (by simpa [chosen] using same))
    | true =>
      induction later' with
      | nil => simp [chosen] at same
      | cons r' rest ih' =>
        cases chosen' : own r' with
        | false => exact .right chosen' (ih' (by simpa [chosen'] using same))
        | true =>
          rw [List.filter_cons_of_pos chosen, List.filter_cons_of_pos chosen'] at same
          obtain ⟨rfl, rest⟩ := List.cons.inj same
          exact .both chosen (ih rest)

namespace Session

/-! ## Runs -/

def turns (E : Engine σ) (load : Loading σ Unit) : List Request → Session σ → List Turn
  | [], _ => []
  | r :: rest, s => turn E load r s :: turns E load rest (step E load r s).2

/-- What comes of the requests that name a slot of a family. -/
def ownTurns (E : Engine σ) (load : Loading σ Unit) (mine : String → Bool) (requests : List Request) (s : Session σ) :
    List Turn := (turns E load requests s).filter (·.request.touches mine)

private theorem ownTurns_cons (r : Request) (rest : List Request) (s : Session σ) :
    ownTurns E load mine (r :: rest) s = if r.touches mine then
      turn E load r s :: ownTurns E load mine rest (step E load r s).2
    else ownTurns E load mine rest (step E load r s).2 :=
  List.filter_cons

/-- As long as a unit is owned, no request has disposed the unit or its index. -/
theorem run_retains (silent : Silent load) {s : Session σ} (kept : s.Kept) (known : u.cell < s.world.units.length)
    {requests : List Request} (graph : ∀ r ∈ requests, r.command.OnGraph)
    (own : .unit u ∈ (run E load requests s).2.owners) (apart : HandlesApart (run E load requests s).2.world.calls) :
    .unit u ∈ s.owners ∧ AddsOnly (·.Retains (u.raw s.world) ((u.index s.world).raw s.world)) s.world.calls
      (run E load requests s).2.world.calls := by
  induction requests generalizing s with
  | nil => exact ⟨own, .refl _⟩
  | cons r rest ih =>
    have here := graph r List.mem_cons_self
    have later : ∀ r ∈ rest, r.command.OnGraph := fun r member => graph r (List.mem_cons_of_mem _ member)
    have grown := (step_stepped (E := E) silent kept.sound r here).extends
    have kept' := kept.step (E := E) silent here
    simp only [run_cons] at own apart ⊢
    obtain ⟨own', retained⟩ := ih kept' (known.trans_le grown.units_length) later own apart
    have apart' : HandlesApart (step E load r s).2.world.calls := apart.of_prefix retained.isPrefix
    obtain ⟨first, retained'⟩ := step_retains (E := E) silent kept known here own' apart'
    have known' := s.world.known_of_owned
      (kept.books.balanced.owned_of_unit (kept.books.balanced.unit_owned_of_mem first))
    have unit : u.raw (step E load r s).2.world = u.raw s.world := grown.unit_raw known
    have index : (u.index (step E load r s).2.world).raw (step E load r s).2.world = (u.index s.world).raw s.world :=
      grown.index_raw known known'
    rw [unit, index] at retained
    exact ⟨first, retained'.trans retained⟩

/-- Requests that do with a family of slots what is proper, and with others nothing that could matter to the unit in
it: they save to other paths. The engine hands out no handle that is in use. -/
structure Fair (E : Engine σ) (load : Loading σ Unit) (mine : String → Bool) (elsewhere : CString → Prop)
    (requests : List Request) (s : Session σ) : Prop where
  proper : ∀ r ∈ requests, r.Proper mine
  saves : ∀ turn ∈ turns E load requests s, turn.request.touches mine = false ∨ turn.request.Lends mine →
    ∀ call ∈ turn.calls, call.SavesTo elsewhere
  apart : HandlesApart (run E load requests s).2.world.calls

namespace Fair

variable {s : Session σ} {r : Request} {more : List Request}

private theorem rest (fair : Fair E load mine elsewhere (r :: more) s) :
    Fair E load mine elsewhere more (step E load r s).2 where
  proper q member := fair.proper q (List.mem_cons_of_mem _ member)
  saves turn member := fair.saves turn (List.mem_cons_of_mem _ member)
  apart := by
    have apart := fair.apart
    simpa only [run_cons] using apart

private theorem here (fair : Fair E load mine elsewhere (r :: more) s) (silent : Silent load) (kept : s.Kept) :
    HandlesApart (step E load r s).2.world.calls := by
  have graph := (fair.proper r List.mem_cons_self).graph
  have later := (kept.step (E := E) silent graph).run (E := E) silent fun q member =>
    (fair.proper q (List.mem_cons_of_mem _ member)).graph
  exact fair.rest.apart.of_prefix later.2.calls

end Fair

/-- Runs of sessions in parallel, in which the same is done with the family of slots. -/
theorem Parallel.run {same : Matching → σ → σ → Prop} (isolated : Isolated E elsewhere same)
    (loads : LoadsApart same load)
    {later later' : List Request} (shares : SharesOwn (·.touches mine) later later') {m : Matching} {s t : Session σ}
    (parallel : Parallel same mine u u' m s t) (fair : Fair E load mine elsewhere later s)
    (fair' : Fair E load mine elsewhere later' t) :
    ∃ m', m.Grows m' ∧ List.Forall₂ (m'.Turns mine) (ownTurns E load mine later s) (ownTurns E load mine later' t) := by
  induction shares generalizing m s t with
  | nil => exact ⟨m, .refl m, .nil⟩
  | @left r later later' other rest ih =>
    have proper := fair.proper r List.mem_cons_self
    have aside := step_aside (E := E) loads.silent parallel.houses.kept (proper.outside other)
    have next := parallel.left_step isolated loads proper.graph aside (fair.here loads.silent parallel.houses.kept)
      (fair.saves _ List.mem_cons_self (.inl other))
    rw [ownTurns_cons r, other]
    exact ih next fair.rest fair'
  | @right r later later' other rest ih =>
    have proper := fair'.proper r List.mem_cons_self
    have aside := step_aside (E := E) loads.silent parallel.houses'.kept (proper.outside other)
    have next := parallel.right_step isolated loads proper.graph aside (fair'.here loads.silent parallel.houses'.kept)
      (fair'.saves _ List.mem_cons_self (.inl other))
    rw [ownTurns_cons r, other]
    exact ih next fair fair'.rest
  | @both r later later' chosen rest ih =>
    have proper := fair.proper r List.mem_cons_self
    have apart := fair.here loads.silent parallel.houses.kept
    have apart' := fair'.here loads.silent parallel.houses'.kept
    obtain ⟨m₁, grown, next, here⟩ : ∃ m₁, m.Grows m₁ ∧
        Parallel same mine u u' m₁ (step E load r s).2 (step E load r t).2 ∧
        m₁.Turns mine (turn E load r s) (turn E load r t) := by
      rcases proper.touching chosen with inside | lends
      · exact parallel.inside_step isolated loads proper.graph inside
      · exact ⟨m, .refl m, parallel.lends_step isolated loads lends apart apart'
          (fair.saves _ List.mem_cons_self (.inr lends)) (fair'.saves _ List.mem_cons_self (.inr lends))⟩
    obtain ⟨m₂, grown', turns⟩ := ih next fair.rest fair'.rest
    refine ⟨m₂, grown.trans grown', ?_⟩
    rw [ownTurns_cons, ownTurns_cons, if_pos chosen, if_pos chosen]
    exact .cons (here.mono grown') turns

end Session

end HandleGraph
