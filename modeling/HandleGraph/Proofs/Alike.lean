import HandleGraph.Proofs.Execution

/-! # Two runs side by side

Work over two engines is alike when it comes to the same result and keeps together what belonged together.
What is granted of the engines' calls is granted of all calls that a run has made by its end, so work is
judged along with the promise that it only adds calls. The rules follow the work step by step.
-/

namespace HandleGraph

/-- States in which the calls of engines are recorded. -/
class Recording (S : Type) where
  calls : S → List Call

instance (σ : Type) : Recording (World σ) := ⟨World.calls⟩

open Recording (calls)

/-- When the states of two runs belong together, and what is granted of the calls in either. -/
structure Coupling (S T : Type) where
  granted : List Call → Prop
  closed : ∀ {earlier later : List Call}, earlier <+: later → granted later → granted earlier
  rel : S → T → Prop

/-- States of another kind that go together, as long as the calls are granted. -/
def Coupling.along {S T S' T' : Type} (K : Coupling S T) (rel : S' → T' → Prop) : Coupling S' T' where
  granted := K.granted
  closed := K.closed
  rel := rel

/-- Work comes to the same in both runs. -/
structure Alike {S T α : Type} [Recording S] [Recording T] (K : Coupling S T) (work : StateM S α)
    (other : StateM T α) : Prop where
  grows : ∀ s, calls s <+: calls (work s).2
  grows' : ∀ t, calls t <+: calls (other t).2
  same : ∀ {s t}, K.rel s t → K.granted (calls (work s).2) → K.granted (calls (other t).2) →
    (work s).1 = (other t).1 ∧ K.rel (work s).2 (other t).2

namespace Alike

variable {S T ε α β : Type} [Recording S] [Recording T] {K : Coupling S T}

/-- Work that makes no call. -/
theorem quiet {work : StateM S α} {other : StateM T α} (silent : ∀ s, calls (work s).2 = calls s)
    (silent' : ∀ t, calls (other t).2 = calls t)
    (same : ∀ {s t}, K.rel s t → (work s).1 = (other t).1 ∧ K.rel (work s).2 (other t).2) :
    Alike K work other where
  grows s := silent s ▸ List.prefix_rfl
  grows' t := silent' t ▸ List.prefix_rfl
  same coupled _ _ := same coupled

theorem pure (a : α) : Alike K (pure a) (pure a) :=
  quiet (fun _ => rfl) (fun _ => rfl) fun coupled => ⟨rfl, coupled⟩

/-- Work goes on alike after work that is alike, as both went on with the same result. -/
theorem bind {work : StateM S α} {other : StateM T α} {next : α → StateM S β} {next' : α → StateM T β}
    (first : Alike K work other) (goesOn : ∀ a, Alike K (next a) (next' a)) :
    Alike K (work >>= next) (other >>= next') where
  grows s := (first.grows s).trans ((goesOn _).grows _)
  grows' t := (first.grows' t).trans ((goesOn _).grows' _)
  same {s t} coupled granted granted' := by
    rw [bind_apply] at granted ⊢
    rw [bind_apply] at granted' ⊢
    obtain ⟨result, middle⟩ := first.same coupled (K.closed ((goesOn _).grows _) granted)
      (K.closed ((goesOn _).grows' _) granted')
    rw [← result] at granted' ⊢
    exact (goesOn _).same middle granted granted'

theorem map {work : StateM S α} {other : StateM T α} (f : α → β) (first : Alike K work other) :
    Alike K (f <$> work) (f <$> other) :=
  first.bind fun a => pure (f a)

/-- What is read off the state may be looked at, as long as states that belong together look alike. -/
theorem get {V : S → T → Prop} {next : S → StateM S β} {next' : T → StateM T β}
    (seen : ∀ {s t}, K.rel s t → V s t) (left : ∀ s, ∃ t, V s t) (right : ∀ t, ∃ s, V s t)
    (goesOn : ∀ s t, V s t → Alike K (next s) (next' t)) :
    Alike K (MonadState.get >>= next) (MonadState.get >>= next') where
  grows s := by
    obtain ⟨t, alike⟩ := left s
    exact (goesOn s t alike).grows s
  grows' t := by
    obtain ⟨s, alike⟩ := right t
    exact (goesOn s t alike).grows' t
  same {s t} coupled := (goesOn s t (seen coupled)).same coupled

/-- Both take the same branch. -/
theorem ite {work work' : StateM S α} {other other' : StateM T α} (c : Prop) [Decidable c]
    (positive : Alike K work other) (negative : Alike K work' other') :
    Alike K (if c then work else work') (if c then other else other') := by
  split
  · exact positive
  · exact negative

/-- Work on every element of a list. -/
theorem forM {ι : Type} {work : ι → StateM S PUnit} {other : ι → StateM T PUnit} (list : List ι)
    (each : ∀ i ∈ list, Alike K (work i) (other i)) : Alike K (list.forM work) (list.forM other) := by
  induction list with
  | nil => exact pure _
  | cons i rest ih =>
    exact (each i List.mem_cons_self).bind fun _ => ih fun j member => each j (List.mem_cons_of_mem _ member)

/-! ## Work that can fail -/

theorem ok (a : α) : Alike K (Pure.pure a : ExceptT ε (StateM S) α).run (Pure.pure a : ExceptT ε (StateM T) α).run :=
  pure (Except.ok a)

theorem throw (e : ε) :
    Alike K (MonadExcept.throw e : ExceptT ε (StateM S) α).run (MonadExcept.throw e : ExceptT ε (StateM T) α).run :=
  pure (Except.error e)

/-- Work on the world that cannot fail, as a part of work that can. -/
theorem perform {σ τ : Type} {K : Coupling (World σ) (World τ)} {work : Action σ α} {other : Action τ α}
    (alike : Alike K work other) :
    Alike K (HandleGraph.perform work : ExceptT ε (StateM (World σ)) α).run
      (HandleGraph.perform other : ExceptT ε (StateM (World τ)) α).run :=
  alike.map Except.ok

/-- Like `bind`, for work that may fail, where only a success goes on. -/
theorem next {work : ExceptT ε (StateM S) α} {other : ExceptT ε (StateM T) α}
    {next : α → ExceptT ε (StateM S) β} {next' : α → ExceptT ε (StateM T) β} (first : Alike K work.run other.run)
    (goesOn : ∀ a, Alike K (next a).run (next' a).run) : Alike K (work >>= next).run (other >>= next').run := by
  rw [ExceptT.run_bind, ExceptT.run_bind]
  refine first.bind fun result => ?_
  cases result with
  | error e => exact pure _
  | ok a => exact goesOn a

/-- What is settled already is settled for both, so only a success has to go on alike. -/
theorem settle {σ τ : Type} {K : Coupling (World σ) (World τ)} {result : Except Error α} {next : α → Attempt σ β}
    {next' : α → Attempt τ β} (goesOn : ∀ a, result = .ok a → Alike K (next a).run (next' a).run) :
    Alike K (HandleGraph.settle result >>= next).run (HandleGraph.settle result >>= next').run := by
  cases result with
  | error e => exact throw e
  | ok a => exact goesOn a rfl

/-- Reading the state in work that can fail. -/
theorem read {V : S → T → Prop} {next : S → ExceptT ε (StateM S) β} {next' : T → ExceptT ε (StateM T) β}
    (seen : ∀ {s t}, K.rel s t → V s t) (left : ∀ s, ∃ t, V s t) (right : ∀ t, ∃ s, V s t)
    (goesOn : ∀ s t, V s t → Alike K (next s).run (next' t).run) :
    Alike K (MonadState.get >>= next).run (MonadState.get >>= next').run :=
  show Alike K (MonadState.get >>= fun s => (next s).run) (MonadState.get >>= fun t => (next' t).run) from
    get seen left right goesOn

end Alike

end HandleGraph
