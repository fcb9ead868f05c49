import HandleGraph.Graph.World

/-! # What work comes to

Work that can fail is judged by a condition on its result and on the state that it leaves. The rules
follow the work step by step; a failed step passes its error on and keeps what has been done.
-/

namespace HandleGraph

theorem bind_apply {S α β : Type} {work : StateM S α} {next : α → StateM S β} {s : S} :
    (work >>= next) s = next (work s).1 (work s).2 := rfl

/-- Started in `s`, the work leaves a result and a state that meet the condition. -/
def Ensures {ε S α : Type} (work : ExceptT ε (StateM S) α) (s : S) (post : Except ε α → S → Prop) :
    Prop :=
  post (work.run s).1 (work.run s).2

namespace Ensures

variable {ε S σ α β : Type} {s : S} {post : Except ε α → S → Prop}

theorem mono {work : ExceptT ε (StateM S) α} {weaker : Except ε α → S → Prop}
    (ensured : Ensures work s post) (weakens : ∀ result after, post result after → weaker result after) :
    Ensures work s weaker :=
  weakens _ _ ensured

theorem and {work : ExceptT ε (StateM S) α} {other : Except ε α → S → Prop} (first : Ensures work s post)
    (second : Ensures work s other) : Ensures work s fun result after => post result after ∧ other result after :=
  ⟨first, second⟩

theorem pure_iff {a : α} : Ensures (pure a) s post ↔ post (.ok a) s := Iff.rfl

theorem throw_iff {e : ε} : Ensures (throw e) s post ↔ post (.error e) s := Iff.rfl

theorem get_iff {post : Except ε S → S → Prop} : Ensures get s post ↔ post (.ok s) s := Iff.rfl

theorem mk_iff {work : StateM S (Except ε α)} :
    Ensures (ExceptT.mk work) s post ↔ post (work.run s).1 (work.run s).2 := Iff.rfl

/-- Work in two parts: a success goes on with the second, and a failure is the end. -/
theorem bind_iff {work : ExceptT ε (StateM S) α} {next : α → ExceptT ε (StateM S) β}
    {post : Except ε β → S → Prop} :
    Ensures (work >>= next) s post ↔
      Ensures work s fun result middle => match result with
        | .ok a => Ensures (next a) middle post
        | .error e => post (.error e) middle := by
  have stepped : (work >>= next).run s = match (work.run s).1 with
      | .ok a => (next a).run (work.run s).2
      | .error e => (.error e, (work.run s).2) := by
    change (match work.run s with | (result, middle) => (ExceptT.bindCont next result) middle) = _
    rcases work.run s with ⟨a | e, middle⟩ <;> rfl
  unfold Ensures
  rw [stepped]
  rcases work.run s with ⟨a | e, middle⟩ <;> rfl

/-- Work done in two steps, by what is known of the first. -/
theorem bind {work : ExceptT ε (StateM S) α} {next : α → ExceptT ε (StateM S) β}
    {post : Except ε β → S → Prop} {mid : Except ε α → S → Prop} (first : Ensures work s mid)
    (fails : ∀ e middle, mid (.error e) middle → post (.error e) middle)
    (goesOn : ∀ a middle, mid (.ok a) middle → Ensures (next a) middle post) :
    Ensures (work >>= next) s post := by
  refine bind_iff.mpr (first.mono ?_)
  rintro (e | a) middle reached
  · exact fails e middle reached
  · exact goesOn a middle reached

theorem map_iff {work : ExceptT ε (StateM S) α} {f : α → β} {post : Except ε β → S → Prop} :
    Ensures (f <$> work) s post ↔ Ensures work s fun result after => post (result.map f) after := by
  change Ensures (work >>= fun a => Pure.pure (f a)) s post ↔ _
  rw [bind_iff]
  unfold Ensures
  rcases work.run s with ⟨a | e, after⟩ <;> rfl

theorem perform_iff {w : World σ} {work : Action σ α} {post : Except ε α → World σ → Prop} :
    Ensures (perform work) w post ↔ post (.ok (work w).1) (work w).2 := Iff.rfl

/-- Work whose failure is caught. -/
theorem caught_iff {w : World σ} {work : Attempt σ α} {post : Except Error (Except Error α) → World σ → Prop} :
    Ensures (perform work.run) w post ↔ Ensures work w fun result after => post (.ok result) after :=
  Iff.rfl

theorem settle_iff {w : World σ} {result : Except Error α} {post : Except Error α → World σ → Prop} :
    Ensures (settle result) w post ↔ post result w := Iff.rfl

end Ensures

/-- Wherever it is started, the work returns only what meets the condition. -/
def Returns {ε S α : Type} (good : α → Prop) (work : ExceptT ε (StateM S) α) : Prop :=
  ∀ s, Ensures work s fun result _ => ∀ a, result = .ok a → good a

namespace Returns

variable {ε S σ α β : Type} {good : α → Prop}

theorem pure {a : α} (here : good a) : Returns good (pure a : ExceptT ε (StateM S) α) := by
  rintro s _ ⟨⟩
  exact here

theorem throw {e : ε} : Returns good (throw e : ExceptT ε (StateM S) α) := nofun

theorem perform {work : Action σ α} (here : ∀ w, good (work w).1) :
    Returns good (perform work : ExceptT ε (StateM (World σ)) α) := by
  rintro w _ ⟨⟩
  exact here w

/-- What work returns is what its last step returns. -/
theorem bind {work : ExceptT ε (StateM S) β} {next : β → ExceptT ε (StateM S) α}
    (last : ∀ b, Returns good (next b)) : Returns good (work >>= next) := by
  intro s
  apply Ensures.bind_iff.mpr
  unfold Ensures
  cases (work.run s).1 with
  | error e => nofun
  | ok b => exact last b _

end Returns

end HandleGraph
