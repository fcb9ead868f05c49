import HandleGraph.Proofs.Disposal
import HandleGraph.Proofs.ShadowSessions

/-! # Memory refines the graph without memory

Run side by side, the graph with memory and the graph without answer every request the same, let go of
units and indexes at the same requests, and the first asks the engine about cursors only what the second
asks, in the same order. The engine has to answer about cursors by a table, and its other answers must not
depend on what it was asked about cursors.
-/

namespace HandleGraph

variable {σ ν α : Type} {view : σ → ν} {E : Engine σ} {T : CursorTable} {load : Loading σ Unit} {s t : Session σ}

/-! ## What commands make -/

/-- An object that was made is sound and owned besides what is in the slots. -/
structure Session.Makes (s : Session σ) (x : Object) : Prop where
  sound : s.Sound
  new : x.Sound s.books
  kept : s.books.Kept (x.owners + s.owners)

namespace Command

private theorem makes_of_enters {work : Job σ Outcome} (kept : s.Kept)
    (enters : Job.Enters work s Outcome.owners fun b o => ∀ x, o.made = some x → x.Sound b) :
    Ensures work s fun result after => ∀ o x, result = .ok o → o.made = some x → after.Makes x := by
  apply Ensures.mono enters
  rintro result after entered o x rfl made
  obtain ⟨entered, sound⟩ := entered
  have course := entered.entered
  rw [Outcome.owners, made] at course
  exact ⟨entered.sound, sound x made, kept.books.course course⟩

private theorem run_makes (silent : Silent load) (kept : s.Kept) {c : Command} (graph : c.OnGraph) :
    Ensures (c.run E load) s fun result after => ∀ o x, result = .ok o → o.made = some x → after.Makes x := by
  by_cases renews : ∃ on unsaved options, c = .reparse on unsaved options
  · obtain ⟨on, unsaved, options, rfl⟩ := renews
    apply (reparse_enters kept.sound on unsaved options).mono
    rintro result after ⟨-, entered⟩ o x rfl made
    exact nomatch entered.1.symm.trans made
  · have entered := run_enters (E := E) silent kept.sound c graph
      fun on unsaved options same => renews ⟨on, unsaved, options, same⟩
    refine makes_of_enters kept (Ensures.mono entered ?_)
    rintro (e | o) after entered
    · exact entered
    · exact ⟨entered.1, fun x made => (entered.2 x made).sound kept.sound⟩

private theorem runUncached_makes (silent : Silent load) (kept : s.Kept) {c : Command} (graph : c.OnGraph) :
    Ensures (c.runUncached E load) s fun result after => ∀ o x, result = .ok o → o.made = some x → after.Makes x := by
  cases c with
  | ask on question => exact makes_of_enters kept (askUncached_enters kept.sound on question)
  | equal a b => exact makes_of_enters kept (equalUncached_enters kept.sound a b)
  | _ => exact run_makes silent kept graph

end Command

namespace Session

private theorem Makes.blank_place {x : Object} (blank : x.Blank) : x.place = x := by
  cases x with
  | cursor c => exact congrArg Object.cursor (Cursor.bare_of_blank blank)
  | _ => rfl

private theorem calls_keep (into : Option String) (o : Object) (s : Session σ) :
    s.world.calls <+: (keep E into o s).2.world.calls := by
  have dropped (o : Object) (w : World σ) : w.calls <+: (o.drop E w).2.calls := by
    have course : Books.Course (w.books, o.owners + 0) ((o.drop E w).2.books, 0) := o.drop_course
    exact (Books.Extends.course course).calls
  cases into with
  | none => exact dropped o s.world
  | some slot =>
    rw [keep_some]
    cases s.slots.find? slot with
    | none => exact List.prefix_rfl
    | some old => exact dropped old s.world

private theorem calls_conclude (into : Option String) (result : Except Fault Outcome) (s : Session σ) :
    s.world.calls <+: (conclude E into result s).2.world.calls := by
  obtain fault | ⟨reply, _ | o⟩ := result
  · exact List.prefix_rfl
  · exact List.prefix_rfl
  · exact calls_keep into o s

/-- A new object is kept in both sessions, or let go of. -/
theorem Beside.keep (indifferent : Indifferent E view) (beside : s.Beside T view t) {x : Object} (blank : x.Blank)
    (makes : s.Makes x) (makes' : t.Makes x) (into : Option String) :
    (keep E into x s).2.Beside T view (keep E into x t).2 := by
  have place := Makes.blank_place blank
  cases into with
  | none =>
    refine beside.worlds ?_
    have dropped := beside.world.drop_object indifferent makes.new makes.kept (place.symm ▸ makes'.kept)
      (beside.mem_owners makes.sound)
    rwa [place] at dropped
  | some slot =>
    rw [keep_some, keep_some, beside.find?]
    refine ⟨?_, ?_, fun other c there => ?_⟩
    · cases present : s.slots.find? slot with
      | none => exact beside.world
      | some old => exact beside.drop_held indifferent makes.sound makes'.sound present makes.kept makes'.kept
    · change t.slots.insert slot x = (s.slots.insert slot x).bare
      rw [SlotMap.bare_insert, beside.slots, place]
    · change (s.slots.insert slot x).find? other = _ at there
      rw [SlotMap.find?_insert] at there
      split_ifs at there
      · obtain rfl := Option.some.inj there
        exact .of_blank blank
      · exact beside.faithful other c there

/-! ## Runs -/

private theorem runUncached_cons (r : Request) (rest : List Request) (s : Session σ) :
    runUncached E load (r :: rest) s =
      ((stepUncached E load r s).1 :: (runUncached E load rest (stepUncached E load r s).2).1,
        (runUncached E load rest (stepUncached E load r s).2).2) := by
  unfold runUncached
  rw [List.mapM_cons, bind_apply, bind_apply]
  rfl

private theorem runUncached_append (earlier later : List Request) (s : Session σ) :
    (runUncached E load (earlier ++ later) s).2 = (runUncached E load later (runUncached E load earlier s).2).2 := by
  unfold runUncached
  rw [List.mapM_append]
  rfl

private theorem Kept.runUncached (kept : s.Kept) (silent : Silent load) {requests : List Request}
    (graph : ∀ r ∈ requests, r.command.OnGraph) :
    (runUncached E load requests s).2.Kept ∧ s.world.calls <+: (runUncached E load requests s).2.world.calls := by
  induction requests generalizing s with
  | nil => exact ⟨kept, List.prefix_rfl⟩
  | cons r rest ih =>
    rw [runUncached_cons]
    obtain ⟨first, extends_⟩ := kept.stepUncached (E := E) silent (graph r List.mem_cons_self)
    obtain ⟨kept, grown⟩ := ih first fun q member => graph q (List.mem_cons_of_mem _ member)
    exact ⟨kept, extends_.calls.trans grown⟩

section Runs

variable (indifferent : Indifferent E view) (inhabited : Nonempty σ) (loads : Loads view load)

include indifferent inhabited loads

/-- A request is answered the same in both sessions, and they stay side by side. -/
theorem Beside.step (beside : s.Beside T view t) (kept : s.Kept) (kept' : t.Kept) {r : Request}
    (graph : r.command.OnGraph) (granted : T.Grants (step E load r s).2.world.calls)
    (granted' : T.Grants (stepUncached E load r t).2.world.calls) :
    (Session.step E load r s).1 = (stepUncached E load r t).1 ∧
      (Session.step E load r s).2.Beside T view (stepUncached E load r t).2 := by
  have agrees := Command.agrees (T := T) indifferent inhabited loads graph beside kept kept'
  have makes := Command.run_makes (E := E) loads.silent kept graph
  have makes' := Command.runUncached_makes (E := E) loads.silent kept' graph
  have blank : Ensures (r.command.run E load) s fun result _ => ∀ o, result = .ok o → o.Blank :=
    (r.command.run_leaves s).mono fun _ _ leaves => leaves.blank
  unfold Ensures at makes makes' blank
  rw [step_eq, bind_apply] at granted ⊢
  rw [stepUncached, bind_apply] at granted' ⊢
  generalize (r.command.run E load).run s = found, (r.command.runUncached E load).run t = found'
    at agrees makes makes' blank granted granted' ⊢
  obtain ⟨result, after⟩ := found
  obtain ⟨result', after'⟩ := found'
  obtain ⟨same, beside⟩ := agrees (granted.of_isPrefix (calls_conclude ..)) (granted'.of_isPrefix (calls_conclude ..))
  obtain rfl : result = result' := (congrFun Except.map_id result).symm.trans same
  obtain fault | ⟨reply, _ | x⟩ := result
  · exact ⟨rfl, beside⟩
  · exact ⟨rfl, beside⟩
  · exact ⟨rfl, beside.keep indifferent (blank _ rfl x rfl) (makes _ x rfl rfl) (makes' _ x rfl rfl) r.into⟩

/-- Requests are answered the same in both sessions, and they stay side by side. -/
theorem Beside.run (beside : s.Beside T view t) (kept : s.Kept) (kept' : t.Kept) {requests : List Request}
    (graph : ∀ r ∈ requests, r.command.OnGraph) (granted : T.Grants (run E load requests s).2.world.calls)
    (granted' : T.Grants (runUncached E load requests t).2.world.calls) :
    (Session.run E load requests s).1 = (runUncached E load requests t).1 ∧
      (Session.run E load requests s).2.Beside T view (runUncached E load requests t).2 := by
  induction requests generalizing s t with
  | nil => exact ⟨rfl, beside⟩
  | cons r rest ih =>
    have here := graph r List.mem_cons_self
    have later (q : Request) (member : q ∈ rest) : q.command.OnGraph := graph q (List.mem_cons_of_mem _ member)
    have first := kept.step (E := E) loads.silent here
    have first' := (kept'.stepUncached (E := E) loads.silent here).1
    rw [run_cons] at granted ⊢
    rw [runUncached_cons] at granted' ⊢
    obtain ⟨reply, beside⟩ := beside.step indifferent inhabited loads kept kept' here
      (granted.of_isPrefix (first.run loads.silent later).2.calls)
      (granted'.of_isPrefix (first'.runUncached loads.silent later).2)
    obtain ⟨replies, beside⟩ := ih beside first first' later granted granted'
    exact ⟨by rw [reply, replies], beside⟩

end Runs

/-- At the end everything is let go of in both sessions. -/
theorem Beside.close (indifferent : Indifferent E view) (beside : s.Beside T view t) (kept : s.Kept) (kept' : t.Kept) :
    Shadows view (close E s).2.world (close E t).2.world := by
  have sound (o : Object) (member : o ∈ s.slots.values) : o.Sound s.books := by
    obtain ⟨slot, present⟩ := kept.sound.ordered.mem_values_iff.mp member
    exact kept.sound.objects slot o present
  have values' : t.slots.values = s.slots.values.map Object.place := by rw [beside.slots, SlotMap.values_bare]
  have kept' : t.books.Kept ((s.slots.values.map Object.place).map Object.owners).sum := by
    rw [← values']
    exact kept'.books
  have dropped := Shadows.drop_objects indifferent (s := { s with slots := .empty }) (t := { t with slots := .empty })
    beside.world sound kept.books kept'
  change Shadows view (s.slots.values.forM (fun o => act (o.drop E)) { s with slots := .empty }).2.world
    (t.slots.values.forM (fun o => act (o.drop E)) { t with slots := .empty }).2.world
  rw [values']
  exact dropped

end Session

/-! ## An engine with one buffer -/

def Engine.table {σ : Type} (E : Engine σ) (s : σ) : CursorTable where
  answer q := (E.answer q s).1
  text t c := (TextSource.fetch E (.cursor t c) s).1
  walk c := Cursor.untilNull.walk (E.children c Cursor.untilNull s).1

namespace Script

def State.spec (s : State) : TextSource → StringSpec
  | .unit raw => (s.tree? raw.address).elim (.null 0) (·.main)
  | .file raw => (s.file? raw.address).elim (.null 0) (·.name)
  | .cursor t raw => (s.node? raw).elim (.null 0) (·.texts t)

def StringSpec.read : StringSpec → Option String
  | .text bytes => some (Text.lossy bytes)
  | .null _ | .lost => none

def fill (s : State) : StringSpec → StringHandle × State × Option Bytes
  | .null flags => (⟨0, flags⟩, s, none)
  | .text bytes => (⟨1, 1⟩, s, some bytes)
  | .lost => (⟨1, 1⟩, s, none)

/-- A scripted engine that hands out every text in one buffer, so that texts are not numbered. -/
def buffered : Engine (State × Option Bytes) where
  answer q := fun (s, buffer) =>
    match q with
    | .unitSpelling raw => fill s (s.spec (.unit raw))
    | .fileName raw => fill s (s.spec (.file raw))
    | .text t raw => fill s (s.spec (.cursor t raw))
    | .readString _ => (buffer.map Text.lossy, s, buffer)
    | .disposeString _ => ((), s, buffer)
    | q => ((answer q s).1, (answer q s).2, buffer)
  children c _ := fun (s, buffer) => ((children c s).1, s, buffer)

private theorem fetch_buffered (source : TextSource) (s : State) (buffer : Option Bytes) :
    (source.fetch buffered (s, buffer)).1 = (s.spec source).read ∧ (source.fetch buffered (s, buffer)).2.1 = s := by
  have read (spec : StringSpec) : buffered.readOut (fill s spec).1 (fill s spec).2 = (spec.read, (fill s spec).2) := by
    cases spec <;> rfl
  have kept (spec : StringSpec) : (fill s spec).2.1 = s := by cases spec <;> rfl
  have filled : source.handOut buffered (s, buffer) = fill s (s.spec source) := by cases source <;> rfl
  unfold TextSource.fetch
  rw [filled]
  dsimp only
  rw [read]
  exact ⟨rfl, kept _⟩

private theorem buffered_indifferent : Indifferent buffered Prod.fst where
  cursor q s about := by
    obtain ⟨s, buffer⟩ := s
    cases q <;> first | rfl | cases about
  walk c visitor s := rfl
  cursorText source s _ := (fetch_buffered source s.1 s.2).2
  other q plain about s t same := by
    obtain ⟨s, buffer⟩ := s
    obtain ⟨_, other⟩ := t
    obtain rfl : s = _ := same
    cases q <;> first | exact ⟨rfl, rfl⟩ | cases plain
  text source _ s t same := by
    obtain ⟨s, buffer⟩ := s
    obtain ⟨_, other⟩ := t
    obtain rfl : s = _ := same
    have here := fetch_buffered source s buffer
    have there := fetch_buffered source s other
    exact ⟨here.1.trans there.1.symm, here.2.trans there.2.symm⟩

end Script

namespace Sample

def parsed : Script.State := { script with issued := 2, units := [(2, ⟨[97], ⟨.text [97], .node 0, [node], []⟩⟩)] }

/-- Questions along paths, asked again after a reparse, with copies and elements of sequences. -/
def questions : List Request := [
  ⟨.createIndex {}, some "index"⟩,
  ⟨.parse "index" [97] [] [] ⟨0⟩, some "unit"⟩,
  ⟨.root "unit", some "root"⟩,
  ⟨.ask ⟨"root", [.canonical, .semanticParent]⟩ .spelling, none⟩,
  ⟨.ask ⟨"root", [.canonical]⟩ .copy, some "copy"⟩,
  ⟨.reparse "unit" [] none, none⟩,
  ⟨.ask ⟨"root", [.canonical, .semanticParent]⟩ .spelling, none⟩,
  ⟨.ask ⟨"copy", [.canonical]⟩ (.link .definition), some "root"⟩,
  ⟨.equal ⟨"root", [.referenced]⟩ ⟨"copy", []⟩, none⟩,
  ⟨.ask ⟨"copy", []⟩ .children, some "children"⟩,
  ⟨.drop "unit", none⟩,
  ⟨.collect "children", none⟩]

/-- A spelling is asked for twice before another unit is parsed. -/
def again : List Request := [
  ⟨.createIndex {}, some "index"⟩,
  ⟨.parse "index" [97] [] [] ⟨0⟩, some "unit"⟩,
  ⟨.root "unit", some "root"⟩,
  ⟨.ask ⟨"root", []⟩ .spelling, none⟩,
  ⟨.ask ⟨"root", []⟩ .spelling, none⟩,
  ⟨.parse "index" [97] [] [] ⟨0⟩, some "unit"⟩]

def shownUnit : Except Fault Reply → Option UnitHandle
  | .ok (.unit raw _) => some raw
  | _ => none

end Sample

/-! ## Refinement -/

namespace Session

def endedUncached (E : Engine σ) (load : Loading σ Unit) (engine : σ) (requests : List Request) : Session σ :=
  (close E (afterUncached E load engine requests)).2

/-- With memory every request is answered as without. At every moment the slots hold the same objects, the
same units and indexes have been disposed, and the engine was asked about cursors only what it is asked
without memory, in the same order. -/
structure Refines (E : Engine σ) (load : Loading σ Unit) (engine : σ) (requests : List Request) : Prop where
  replies : ((run E load requests).run (start engine)).1 = ((runUncached E load requests).run (start engine)).1
  slots : ∀ earlier, earlier <+: requests →
    (afterUncached E load engine earlier).slots = (after E load engine earlier).slots.bare
  disposals : ∀ earlier, earlier <+: requests →
    disposals (after E load engine earlier).world.calls = disposals (afterUncached E load engine earlier).world.calls
  disposals_ended :
    HandleGraph.disposals (ended E load engine requests).world.calls =
      HandleGraph.disposals (endedUncached E load engine requests).world.calls
  queries : ∀ earlier, earlier <+: requests → (cursorQueries (after E load engine earlier).world.calls).Sublist
    (cursorQueries (afterUncached E load engine earlier).world.calls)
  queries_ended : (cursorQueries (ended E load engine requests).world.calls).Sublist
    (cursorQueries (endedUncached E load engine requests).world.calls)

/-- When the engine answers about cursors by a table, and its other answers do not depend on what it has been
asked about cursors, the graph with memory refines the one without. -/
theorem memory_refines (indifferent : Indifferent E view) (loads : Loads view load) (engine : σ)
    {requests : List Request} (graph : ∀ r ∈ requests, r.command.OnGraph)
    (granted : T.Grants (ended E load engine requests).world.calls)
    (granted' : T.Grants (endedUncached E load engine requests).world.calls) : Refines E load engine requests := by
  have closing (s : Session σ) : s.world.calls <+: (close E s).2.world.calls :=
    (Books.Extends.course (close_enters s).1).calls
  -- The table is kept to in the whole run, so it is in what has been run before any request.
  have ran {earlier : List Request} (begins : earlier <+: requests) :
      ((run E load earlier).run (start engine)).1 = ((runUncached E load earlier).run (start engine)).1 ∧
        (after E load engine earlier).Beside T view (afterUncached E load engine earlier) := by
    have upTo (r : Request) (member : r ∈ earlier) : r.command.OnGraph := graph r (begins.subset member)
    have grown' : (afterUncached E load engine earlier).world.calls <+:
        (afterUncached E load engine requests).world.calls := by
      obtain ⟨later, rfl⟩ := begins
      have kept := (Kept.start engine).runUncached (E := E) loads.silent upTo
      have grown :=
        (kept.1.runUncached (E := E) loads.silent fun r member => graph r (List.mem_append_right _ member)).2
      rwa [← runUncached_append] at grown
    exact (Beside.start T view engine).run indifferent ⟨engine⟩ loads (.start engine) (.start engine) upTo
      (granted.of_isPrefix ((after_extends loads.silent engine graph begins).calls.trans (closing _)))
      (granted'.of_isPrefix (grown'.trans (closing _)))
  have last : Shadows view (ended E load engine requests).world (endedUncached E load engine requests).world :=
    (ran List.prefix_rfl).2.close indifferent (.after loads.silent engine graph)
      ((Kept.start engine).runUncached loads.silent graph).1
  exact {
    replies := (ran List.prefix_rfl).1
    slots := fun _ begins => (ran begins).2.slots
    disposals := fun _ begins => (ran begins).2.world.disposals
    disposals_ended := last.disposals
    queries := fun _ begins => (ran begins).2.world.queries
    queries_ended := last.queries }

theorem memory_refines_sample :
    Refines Script.buffered (pure ()) (Sample.script, none) Sample.questions ∧
      ((runUncached Script.buffered (pure ()) Sample.questions).run (start (Sample.script, none))).1.map Except.isOk =
        List.replicate 12 true ∧
      (cursorQueries (ended Script.buffered (pure ()) (Sample.script, none) Sample.questions).world.calls).length = 8 ∧
      (cursorQueries
          (endedUncached Script.buffered (pure ()) (Sample.script, none) Sample.questions).world.calls).length =
        12 := by
  have refines : Refines Script.buffered (pure ()) (Sample.script, none) Sample.questions :=
    memory_refines (T := Script.buffered.table (Sample.parsed, none)) Script.buffered_indifferent .pure
      (Sample.script, none) (by simp [Sample.questions, Command.OnGraph]) (by decide +kernel) (by decide +kernel)
  have replies := congrArg (List.map Except.isOk) refines.replies
  exact ⟨refines, replies.symm.trans (by decide +kernel), by decide +kernel, by decide +kernel⟩

/-- An engine that numbers its strings and its units together shows by the handles of units how often it was
asked for texts of cursors. -/
theorem not_refines_when_numbered : ¬∀ (E : Engine Script.State) (T : CursorTable) (engine : Script.State)
    (requests : List Request), (∀ r ∈ requests, r.command.OnGraph) →
      T.Grants (ended E (pure ()) engine requests).world.calls →
      T.Grants (endedUncached E (pure ()) engine requests).world.calls → Refines E (pure ()) engine requests := by
  intro all
  have refines := all Script.engine (Script.engine.table Sample.parsed) Sample.script Sample.again
    (by simp [Sample.again, Command.OnGraph]) (by decide +kernel) (by decide +kernel)
  have units := congrArg (List.map Sample.shownUnit) refines.replies
  exact absurd units (by decide +kernel)

end Session

end HandleGraph
