import HandleGraph.Proofs.ShadowDisposal

/-! # Asking cursors with and without memory

A cursor with a faithful memory is asked in one world, the same cursor without memory in a world that the
first one shadows. What the first takes from its memory the second is answered by the engine, so both come
to the same, and the second world is shadowed still.
-/

namespace HandleGraph

variable {σ ν α β : Type} {view : σ → ν} {E : Engine σ} {T : CursorTable} {w v : World σ} {held : Multiset Owner}

/-! ## Questions that only one side asks -/

namespace Shadows

private theorem copy_cursor (indifferent : Indifferent E view) (t : CursorText) (raw : CursorHandle) (w : World σ) :
    Shadows view w ((TextSource.cursor t raw).copy E w).2 := by
  obtain ⟨-, made, copies, after⟩ := (TextSource.cursor t raw).copy_eq E w
  rw [after]
  exact more w (indifferent.cursorText (.cursor t raw) w.engine rfl).symm copies.disposals

private theorem ask_cursor (indifferent : Indifferent E view) {q : Query} (about : q.onCursor = true) (w : World σ) :
    Shadows view w (ask E q w).2 := by
  refine more w (indifferent.cursor q w.engine about).symm ?_
  cases q <;> first | rfl | cases about

private theorem clone_unit (w : World σ) (u : TranslationUnit) : Shadows view w (u.clone w).2 :=
  (countUnit w u (· + 1)).forth

private theorem queryText (indifferent : Indifferent E view) (t : CursorText) (c : Cursor) (w : World σ) :
    Ensures (c.queryText E t) w fun _ after => Shadows view w after := by
  simp only [Cursor.queryText, takeString, Ensures.bind_iff, Ensures.settle_iff, Ensures.perform_iff]
  cases c.live t.operation with
  | error e => exact refl view w
  | ok u =>
    have copied := copy_cursor indifferent t c.raw w
    change Shadows view w (takeOptionalString E (ask E (.text t c.raw) w).1 (ask E (.text t c.raw) w).2).2 at copied
    change Ensures _ _ fun _ (after : World σ) => Shadows view w after
    cases (takeOptionalString E (ask E (.text t c.raw) w).1 (ask E (.text t c.raw) w).2).1 <;> exact copied

private theorem queryHash (indifferent : Indifferent E view) (c : Cursor) (w : World σ) :
    Ensures (c.queryHash E) w fun _ after => Shadows view w after := by
  simp only [Cursor.queryHash, Ensures.bind_iff, Ensures.settle_iff, Ensures.perform_iff]
  cases c.live "hash" with
  | error e => exact refl view w
  | ok u => exact ask_cursor indifferent rfl w

private theorem queryLink (indifferent : Indifferent E view) (l : Link) (c : Cursor) (w : World σ) :
    Ensures (c.queryLink E l) w fun _ after => Shadows view w after := by
  simp only [Cursor.queryLink, Ensures.bind_iff, Ensures.settle_iff, Ensures.perform_iff]
  cases c.live l.operation with
  | error e => exact refl view w
  | ok u =>
    have asked : Shadows view w (ask E (.link l c.raw) w).2 := ask_cursor indifferent rfl w
    change Ensures _ _ fun _ (after : World σ) => Shadows view w after
    split_ifs
    · exact asked.trans (report _ _).forth
    · exact asked
    · exact (asked.trans (report _ (.linkCached l.operation)).forth).trans (clone_unit _ u)

end Shadows

/-! ## The same cursor with and without memory -/

/-- A cursor that is asked faces a world when it shadows it with a faithful memory, and its unit is owned
there. -/
structure Faces (T : CursorTable) (view : σ → ν) (f : Focus σ) (v : World σ) (held : Multiset Owner)
    (u : TranslationUnit) (generation : UInt64) : Prop where
  shadows : Shadows view f.world v
  faithful : f.cursor.Faithful T
  rooted : f.cursor.bare.Rooted v.books u generation
  own : ∀ x, f.cursor.unit = some x → .unit x ∈ held
  kept : v.books.Kept held

/-- What comes of asking a cursor with memory is what comes of asking it without. -/
structure Met (T : CursorTable) (view : σ → ν) (g : α → β) (c : Cursor) (found : Except Error α × Focus σ)
    (found' : Except Error β × World σ) : Prop where
  result : found.1.map g = found'.1
  shadows : Shadows view found.2.world found'.2
  faithful : found.2.cursor.Faithful T
  place : found.2.cursor.bare = c.bare

/-- Work on a cursor comes to the same without memory, as long as the engine answers by the table. -/
structure Meets (T : CursorTable) (view : σ → ν) (g : α → β) (work : Inspect σ α)
    (other : Cursor → Attempt σ β) : Prop where
  grows : ∀ f, f.world.calls <+: (work.run f).2.world.calls
  grows' : ∀ c v, v.calls <+: ((other c).run v).2.calls
  same : ∀ {f v held u generation}, Faces T view f v held u generation → T.Grants (work.run f).2.world.calls →
    T.Grants ((other f.cursor.bare).run v).2.calls →
      Met T view g f.cursor (work.run f) ((other f.cursor.bare).run v)

/-- A memoised accessor is answered from a faithful memory as the engine answers by the table. -/
theorem Cell.Backs.meets {cell : Cell} {wrap : α → Content} {recollect : Memo Cursor → Option α}
    {keep : α → Memo Cursor → Memo Cursor} {work other : Cursor → Attempt σ α} {g : α → α}
    {table : Cursor → Except Error α} (backs : cell.Backs wrap recollect keep work)
    (bare : ∀ c, other c.bare = other c) (alike : ∀ c, Alike (shadowing T view) (work c).run (other c).run)
    (tabled : ∀ c, Tabled T (other c) (table c))
    (asks : ∀ c w, Ensures (other c) w fun _ after => Shadows view w after)
    (replies : ∀ c, T.reply c cell = wrap <$> table c)
    (same : ∀ c a b, table c = .ok b → wrap a = wrap b → g a = b) :
    Meets T view g (Inspect.memoised recollect keep work) other where
  grows := (Alike.memoised recollect keep alike).grows
  grows' c v := (alike c).grows' v
  same {f v held u generation} faces := by
    obtain ⟨c, w⟩ := f
    have met : Ensures (Inspect.memoised recollect keep work) ⟨c, w⟩ fun result after =>
        T.Grants after.world.calls → T.Grants ((other c).run v).2.calls →
          Met T view g c (result, after) ((other c).run v) := by
      rw [Inspect.memoised_iff]
      cases known : recollect c.memo with
      | some a =>
        -- Only the other side asks here. What it is answered is in the table, and so is what is remembered.
        intro _ granted
        have filled : c.memo.content cell = some (wrap a) := by rw [backs.reads, known]; rfl
        have reply := faces.faithful.own filled
        rw [replies] at reply
        cases answer : table c with
        | error e => rw [answer] at reply; cases reply
        | ok b =>
          rw [answer] at reply
          refine ⟨?_, faces.shadows.trans (asks c v), faces.faithful, rfl⟩
          rw [tabled c v granted, answer, ← same c a b answer (Except.ok.inj reply).symm]
          rfl
      | none =>
        have asked : T.Grants ((work c).run w).2.calls → T.Grants ((other c).run v).2.calls → _ :=
          (alike c).same faces.shadows
        unfold Ensures
        rcases ran : (work c).run w with ⟨e | a, after⟩ <;> intro granted granted' <;> rw [ran] at asked <;>
          obtain ⟨result, shadows⟩ := asked granted granted'
        · exact ⟨result, shadows, faces.faithful, rfl⟩
        · have answer : table c = .ok a := (tabled c v granted').symm.trans result.symm
          have reply : T.reply c cell = .ok (wrap a) := by rw [replies, answer]; rfl
          refine ⟨?_, shadows, faces.faithful.remember backs known reply (by rw [ran]), rfl⟩
          rw [← result, Except.map, same c a a answer rfl]
    rw [bare]
    exact met

namespace Cursor

variable (indifferent : Indifferent E view) (inhabited : Nonempty σ)

include indifferent inhabited

private theorem spelling_meets : Meets T view id (spelling E) (queryText E .spelling) := by
  refine (Cell.spelling_backs _).meets (fun _ => rfl) (fun c => ?_) (queryText_tabled .spelling)
    (Shadows.queryText indifferent .spelling) (fun _ => rfl) fun _ _ _ _ same => Content.text.inj same
  have told (text : String) : Alike (shadowing T view) (perform (report (.spellingCached text)) >>= fun _ =>
      pure text : Attempt σ String).run (pure text : Attempt σ String).run :=
    .quiet (fun _ => rfl) (fun _ => rfl) fun shadows =>
      ⟨rfl, (Shadows.report _ (.spellingCached text)).back.trans shadows⟩
  have asked := ((indifferent.lockstep inhabited).queryText .spelling c).next told
  rwa [bind_pure] at asked

private theorem displayName_meets : Meets T view id (displayName E) (queryText E .displayName) :=
  (Cell.displayName_backs _).meets (fun _ => rfl) ((indifferent.lockstep inhabited).queryText .displayName)
    (queryText_tabled .displayName) (Shadows.queryText indifferent .displayName) (fun _ => rfl)
    fun _ _ _ _ same => Content.text.inj same

private theorem hash_meets : Meets T view id (hash E) (queryHash E) := by
  have step := indifferent.lockstep (T := T) inhabited
  refine (Cell.hash_backs _).meets (fun _ => rfl) (fun c => ?_) queryHash_tabled (Shadows.queryHash indifferent)
    (fun _ => rfl) fun _ _ _ _ same => Content.word.inj same
  exact .settle fun _ _ => .perform (step.asking (.hash c.raw) rfl step.fits_nil)

/-- The cursor behind a link is met without what it remembers. -/
theorem link_meets (l : Link) : Meets T view bare (link E l) (queryLink E l) := by
  refine (Cell.link_backs E l).meets (fun _ => rfl) ((indifferent.lockstep inhabited).queryLink l)
    (queryLink_tabled l) (Shadows.queryLink indifferent l) (fun _ => rfl) fun c d e found same => ?_
  rw [bare_eq.mpr (Content.cursor.inj same), bare_of_blank (CursorTable.blank_of_queryLink found)]

end Cursor

/-! ## Questions -/

/-- Work that looks at no memory comes to the same without. -/
theorem Inspect.Blind.meets {work : Inspect σ α} (blind : work.Blind)
    (alike : Alike (shadowing T view).focus work.run work.run) : Meets T view id work work.once where
  grows := alike.grows
  grows' c v := alike.grows' ⟨c, v⟩
  same {f v held u generation} faces := by
    obtain ⟨c, w⟩ := f
    obtain ⟨result, after, ran, ran'⟩ := blind c w
    have together := alike.same (s := ⟨c.bare, w⟩) (t := ⟨c.bare, v⟩) ⟨rfl, faces.shadows⟩
    rw [ran'] at together
    rw [ran]
    intro granted granted'
    obtain ⟨same, -, shadows⟩ := together granted granted'
    exact ⟨(congrFun Except.map_id result).trans same, shadows, faces.faithful, rfl⟩

/-- An answer that makes no object. -/
theorem Meets.answer {work : Inspect σ α} {other : Cursor → Attempt σ α} (meets : Meets T view id work other)
    (reply : α → Reply) :
    Meets T view id (do return ⟨reply (← work), none⟩ : Inspect σ Outcome)
      (fun c => do return ⟨reply (← other c), none⟩) := by
  have left (f : Focus σ) : (do return ⟨reply (← work), none⟩ : Inspect σ Outcome).run f =
      ((work.run f).1.map fun a => ⟨reply a, none⟩, (work.run f).2) := by
    rw [ExceptT.run_bind, bind_apply]
    rcases work.run f with ⟨e | a, after⟩ <;> rfl
  have right (c : Cursor) (v : World σ) : (do return ⟨reply (← other c), none⟩ : Attempt σ Outcome).run v =
      (((other c).run v).1.map fun a => ⟨reply a, none⟩, ((other c).run v).2) := by
    rw [ExceptT.run_bind, bind_apply]
    rcases (other c).run v with ⟨e | a, after⟩ <;> rfl
  constructor
  · intro f
    rw [left]
    exact meets.grows f
  · intro c v
    rw [right]
    exact meets.grows' c v
  · intro f v held u generation faces granted granted'
    rw [left] at granted ⊢
    rw [right] at granted' ⊢
    have met := meets.same faces granted granted'
    refine ⟨?_, met.shadows, met.faithful, met.place⟩
    rw [← met.result]
    simp only [Except.map_id, id]

/-- That a copy owns the unit once more does not show. -/
theorem Cursor.clone_coincides (view : σ → ν) (c : Cursor) (w : World σ) :
    Coincide view w (c.clone w).2 ∧ (c.clone w).2.calls = w.calls := by
  obtain ⟨raw, unit, generation, memo⟩ := c
  cases unit with
  | none => exact ⟨.refl view w, rfl⟩
  | some u => exact ⟨Shadows.countUnit w u (· + 1), rfl⟩

/-- To look at a cursor is to make a copy without memory. -/
theorem Cursor.clone_meets : Meets T view bare (Inspect.receiver : Inspect σ Cursor) fun c => perform c.clone where
  grows _ := List.prefix_rfl
  grows' c v := by
    have silent := (c.clone_coincides view v).2
    exact ⟨[], (List.append_nil _).trans silent.symm⟩
  same {f v held u generation} faces _ _ := by
    refine ⟨congrArg Except.ok (Cursor.clone_eq f.cursor.bare v).symm, ?_, faces.faithful, rfl⟩
    exact faces.shadows.trans (f.cursor.bare.clone_coincides view v).1.forth

section Met

variable (indifferent : Indifferent E view) (inhabited : Nonempty σ)

include indifferent inhabited

/-- A copy of the remembered cursor behind a link is what the engine answers. -/
theorem Question.link_meets (l : Link) :
    Meets T view id (Question.ask E (.link l)) (fun c => Question.askEngine E c (.link l)) := by
  have step := indifferent.lockstep (T := T) inhabited
  have linked := Cursor.link_meets (T := T) indifferent inhabited l
  have left (f : Focus σ) : (Question.ask E (.link l)).run f = match (Cursor.link E l).run f with
      | (.ok d, middle) => (.ok (.of (.cursor (d.clone middle.world).1) (d.clone middle.world).2),
          { middle with world := (d.clone middle.world).2 })
      | (.error e, middle) => (.error e, middle) := by
    change ((Cursor.link E l >>= fun d => Question.ask.make .cursor d.clone).run f) = _
    rw [ExceptT.run_bind, bind_apply]
    rcases (Cursor.link E l).run f with ⟨e | d, middle⟩ <;> rfl
  have right (c : Cursor) (v : World σ) : (Question.askEngine E c (.link l)).run v =
      (((c.queryLink E l).run v).1.map fun d => .of (.cursor d) ((c.queryLink E l).run v).2,
        ((c.queryLink E l).run v).2) := by
    change ((c.queryLink E l >>= fun d => do return Outcome.of (.cursor d) (← get)).run v) = _
    rw [ExceptT.run_bind, bind_apply]
    rcases (c.queryLink E l).run v with ⟨e | d, middle⟩ <;> rfl
  constructor
  · exact (step.question (.link l)).grows
  · intro c v
    rw [right]
    exact linked.grows' c v
  · intro f v held u generation faces
    have met := linked.same faces
    rw [left, right]
    generalize (Cursor.link E l).run f = found, (f.cursor.bare.queryLink E l).run v = found' at met ⊢
    intro granted granted'
    obtain ⟨e | d, middle⟩ := found
    · obtain ⟨result, shadows, faithful, place⟩ := met granted granted'
      exact ⟨by rw [← result]; rfl, shadows, faithful, place⟩
    · obtain ⟨⟨-, copied⟩, silent⟩ := Cursor.clone_coincides view d middle.world
      change T.Grants (d.clone middle.world).2.calls at granted
      rw [silent] at granted
      obtain ⟨result, shadows, faithful, place⟩ := met granted granted'
      refine ⟨?_, copied.trans shadows, faithful, place⟩
      rw [← result]
      change Except.ok (Outcome.of (.cursor (d.clone middle.world).1) _) = Except.ok (Outcome.of (.cursor d.bare) _)
      rw [Cursor.clone_eq, Outcome.of, Outcome.of, (copied.trans shadows).cells.reply]

/-- Whatever a cursor is asked. -/
theorem Question.meets (q : Question) : Meets T view id (q.ask E) (fun c => q.askEngine E c) := by
  cases cell : q.cell? with
  | none =>
    simp only [askEngine_of_free cell]
    exact (ask_blind cell).meets ((indifferent.lockstep inhabited).question q)
  | some _ =>
    cases q with
    | spelling => exact (Cursor.spelling_meets indifferent inhabited).answer _
    | displayName => exact (Cursor.displayName_meets indifferent inhabited).answer _
    | hash => exact (Cursor.hash_meets indifferent inhabited).answer _
    | link l => exact Question.link_meets indifferent inhabited l
    | _ => cases cell

/-! ## Chains of links -/

omit indifferent inhabited in
private theorem Cursor.within_apply (l : Link) (work : Inspect σ α) (f : Focus σ) :
    (Cursor.within E l work).run f = match (Cursor.link E l).run f with
      | (.ok d, middle) => ((work.run ⟨d, middle.world⟩).1,
          ⟨{ middle.cursor with memo := middle.cursor.memo.setLink l (work.run ⟨d, middle.world⟩).2.cursor },
            (work.run ⟨d, middle.world⟩).2.world⟩)
      | (.error e, middle) => (.error e, middle) := by
  rw [Cursor.within, ExceptT.run_bind, bind_apply]
  rcases (Cursor.link E l).run f with ⟨e | d, middle⟩ <;> rfl

omit indifferent inhabited in
private theorem Cursor.visit_cons_apply (l : Link) (path : List Link) (work : Cursor → Attempt σ β)
    (c : Cursor) (v : World σ) :
    (c.visit E work (l :: path)).run v = match (c.queryLink E l).run v with
      | (.ok d, middle) => (((d.visit E work path).run middle).1, (d.drop E ((d.visit E work path).run middle).2).2)
      | (.error e, middle) => (.error e, middle) := by
  rw [Cursor.visit, ExceptT.run_bind, bind_apply]
  rcases (c.queryLink E l).run v with ⟨e | d, middle⟩ <;> rfl

omit indifferent inhabited in
/-- What was held before some work is held besides what was more. -/
theorem Enters.keeps {work : Attempt σ β} {owners : β → Multiset Owner} {good : Books → β → Prop}
    {more held : Multiset Owner} (entered : Enters work v (more + held) owners good)
    (kept : v.books.Kept (more + held)) :
    ∃ rest, (work.run v).2.books.Kept (more + rest) ∧ held ⊆ rest := by
  obtain ⟨b, after, ran, course, -⟩ | ⟨e, after, ran, course⟩ := entered.cases
  · rw [ran]
    rw [add_left_comm] at course
    exact ⟨owners b + held, kept.course course, Multiset.subset_of_le (Multiset.le_add_left held _)⟩
  · rw [ran]
    exact ⟨held, kept.course course, Multiset.Subset.refl held⟩

/-- Work on a remembered cursor is work on one that the engine answers, which is let go of afterwards. -/
theorem Meets.within {g : α → β} {work : Inspect σ α} {other : Cursor → Attempt σ β} {owners : β → Multiset Owner}
    {good : Books → TranslationUnit → UInt64 → Cursor → β → Prop} (meets : Meets T view g work other)
    (receives : Cursor.Receives other owners good) (l : Link) :
    Meets T view g (Cursor.within E l work) fun c => c.visit E other [l] := by
  have linked := Cursor.link_meets (T := T) indifferent inhabited l
  constructor
  · intro f
    have grown := linked.grows f
    rw [Cursor.within_apply]
    generalize (Cursor.link E l).run f = found at grown ⊢
    obtain ⟨e | d, middle⟩ := found
    · exact grown
    · exact grown.trans (meets.grows ⟨d, middle.world⟩)
  · intro c v
    have grown := linked.grows' c v
    rw [Cursor.visit_cons_apply]
    generalize (c.queryLink E l).run v = found at grown ⊢
    obtain ⟨e | d, middle⟩ := found
    · exact grown
    · exact (grown.trans (meets.grows' d middle)).trans (d.calls_drop _)
  · intro f v held u generation faces
    have met := linked.same faces
    have remembers := Cursor.link_remembers (E := E) l f
    have received := Cursor.queryLink_receives (E := E) l f.cursor.bare v held u generation faces.rooted faces.own
    rw [Cursor.within_apply, Cursor.visit_cons_apply]
    unfold Enters Ensures at received
    unfold Ensures at remembers
    generalize (Cursor.link E l).run f = found, (f.cursor.bare.queryLink E l).run v = found' at met remembers received ⊢
    intro granted granted'
    have first : T.Grants found.2.world.calls := by
      obtain ⟨e | d, middle⟩ := found
      · exact granted
      · exact granted.of_isPrefix (meets.grows ⟨d, middle.world⟩)
    have first' : T.Grants found'.2.calls := by
      obtain ⟨e | d, middle⟩ := found'
      · exact granted'
      · exact granted'.of_isPrefix ((meets.grows' d middle).trans (d.calls_drop _))
    obtain ⟨result, shadows, faithful, place⟩ := met first first'
    obtain ⟨e | d, middle⟩ := found <;> obtain ⟨e' | d', middle'⟩ := found'
    · exact ⟨congrArg Except.error (Except.error.inj result), shadows, faithful, place⟩
    · cases result
    · cases result
    · obtain rfl : d.bare = d' := Except.ok.inj result
      obtain ⟨entered, unit, rooted⟩ := received
      have remembered := remembers d rfl
      -- The other side owns its copy while it works on it, so the unit outlives the work.
      have faces' : Faces T view ⟨d, middle.world⟩ middle' (d.bare.owners + held) u generation :=
        ⟨shadows, faithful.link remembered, rooted, fun x here => Cursor.own_bare held here, faces.kept.course entered⟩
      have met' := meets.same faces' granted (granted'.of_isPrefix (d.bare.calls_drop _))
      obtain ⟨rest, kept, subset⟩ :=
        (receives d.bare middle' (d.bare.owners + held) u generation rooted faces'.own).keeps faces'.kept
      refine ⟨met'.result, met'.shadows.trans ?_,
        faithful.within remembered (Cursor.bare_eq.mp met'.place) met'.faithful, place⟩
      exact (Shadows.drop_rooted rooted kept fun _ => subset (faces.own u unit)).forth

/-- Work at the end of a chain of links. -/
theorem Meets.along {g : α → β} {work : Inspect σ α} {other : Cursor → Attempt σ β} {owners : β → Multiset Owner}
    {good : Books → TranslationUnit → UInt64 → Cursor → β → Prop} (meets : Meets T view g work other)
    (receives : ∀ path, Cursor.Receives (fun c => c.visit E other path) owners good) (path : List Link) :
    Meets T view g (Cursor.along E path work) fun c => c.visit E other path := by
  induction path with
  | nil => exact meets
  | cons l path ih => exact ih.within indifferent inhabited (receives path) l

end Met

end HandleGraph
