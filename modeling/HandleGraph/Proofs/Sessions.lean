import HandleGraph.Proofs.CallLaw
import HandleGraph.Proofs.Commands
import HandleGraph.Script.Engine

/-! # What sessions enter

A request enters a course in the books. It leaves the owners in the slots and no others, because what it
makes is kept or let go of. A reparse that succeeds makes a new generation of its unit besides. So the
books are kept from the start of a session to its end, whatever is requested.
-/

namespace HandleGraph

variable {σ : Type} {E : Engine σ} {load : Loading σ Unit} {s : Session σ}

/-- A reparse makes nothing and touches no slot. -/
theorem Command.reparse_enters (sound : s.Sound) (on : String) (unsaved : List UnsavedFile)
    (options : Option ReparseOptions) :
    Ensures ((Command.reparse on unsaved options).run E load) s fun result after =>
      after.slots = s.slots ∧ match result with
      | .ok o => o.made = none ∧ ∃ u b, s.slots.find? on = some (.unit u) ∧
        Books.Course (s.books, s.owners) (b, s.owners) ∧ after.books = b.renew u
      | .error _ => Books.Course (s.books, s.owners) (after.books, s.owners) := by
  unfold run
  rw [Ensures.bind_iff, Job.held_iff]
  cases picked : s.slots.find? on >>= Object.unit? with
  | none => exact ⟨rfl, .refl⟩
  | some u =>
    obtain ⟨o, present, picked⟩ := Option.bind_eq_some_iff.mp picked
    obtain rfl := Object.eq_of_unit? picked
    simp only [Ensures.bind_iff, Job.attempt_iff]
    apply (TranslationUnit.reparse_enters (sound.unit present).1 unsaved options).mono
    rintro (e | _) w entered
    · exact ⟨trivial, entered⟩
    · obtain ⟨b, course, renewed⟩ := entered
      exact ⟨rfl, rfl, u, b, present, course, renewed⟩

namespace Session

def made (E : Engine σ) (load : Loading σ Unit) (s : Session σ) (r : Request) : Option Object :=
  ((r.command.run E load).run s).1.toOption.bind Outcome.made

/-- The unit of which a request has made a new generation, by its answer. -/
def renewed (s : Session σ) (r : Request) (reply : Except Fault Reply) : Option TranslationUnit :=
  match r.command, reply with
  | .reparse on _ _, .ok _ => s.slots.find? on >>= Object.unit?
  | _, _ => none

/-- What a request has entered, with the new generation that it may have made, and where the objects in
the slots come from. -/
structure Stepped (E : Engine σ) (load : Loading σ Unit) (s : Session σ) (r : Request)
    (reply : Except Fault Reply) (after : Session σ) : Prop where
  entered : ∃ b, Books.Course (s.books, s.owners) (b, after.owners) ∧
    after.books = (s.renewed r reply).elim b b.renew
  sound : after.Sound
  objects : ∀ slot o, after.slots.find? slot = some o →
    if r.into = some slot ∧ (s.made E load r).isSome then r.command.Yields s after.books o
    else ∃ old, s.slots.find? slot = some old ∧ o.place = old.place

/-- What was in the slot is dropped before the new object goes in. -/
theorem keep_some (slot : String) (o : Object) :
    (keep E (some slot) o s).2 =
      ⟨(s.slots.find? slot).elim s.world fun old => (old.drop E s.world).2, s.slots.insert slot o⟩ := by
  have read : (get : StateM (Session σ) (Session σ)) s = (s, s) := rfl
  rw [keep, bind_apply, read]
  cases s.slots.find? slot <;> rfl

theorem keep_slots (into : Option String) (o : Object) :
    (keep E into o s).2.slots = into.elim s.slots (s.slots.insert · o) := by
  cases into with
  | none => rfl
  | some slot => rw [keep_some]; rfl

/-- A new object is kept, or let go of at once. -/
theorem keep_enters {o : Object} (sound : s.Sound) (new : o.Sound s.books) (into : Option String) :
    Books.Course (s.books, o.owners + s.owners)
      ((keep E into o s).2.books, (keep E into o s).2.owners) ∧ (keep E into o s).2.Sound := by
  cases into with
  | none =>
    have dropped : Books.Course (s.books, o.owners + s.owners) ((o.drop E s.world).2.books, s.owners) :=
      o.drop_course
    refine ⟨dropped, sound.ordered, fun slot x present => ?_⟩
    exact (sound.objects slot x present).mono (.course dropped)
  | some slot =>
    rw [keep_some]
    have course : Books.Course (s.books, o.owners + s.owners)
        (((s.slots.find? slot).elim s.world fun old => (old.drop E s.world).2).books,
          (s.slots.insert slot o).owners) := by
      rw [sound.ordered.owners_insert]
      cases present : s.slots.find? slot with
      | none => rw [SlotMap.erase_of_find?_none present]; exact .refl
      | some old =>
        rw [Session.owners, sound.ordered.owners_erase present, add_left_comm]
        exact old.drop_course
    refine ⟨course, sound.ordered.insert slot o, fun other x there => ?_⟩
    rw [SlotMap.find?_insert] at there
    split_ifs at there
    · exact (Option.some.inj there ▸ new).mono (.course course)
    · exact (sound.objects other x there).mono (.course course)

/-- A request that fails keeps nothing. -/
theorem step_error {r : Request} {fault : Fault} {after : Session σ}
    (ran : (r.command.run E load).run s = (.error fault, after)) :
    step E load r s = (.error fault, after) := by
  rw [step, bind_apply, show (r.command.run E load).run s = _ from ran]
  rfl

/-- A request that succeeds keeps what it made where it was told to. -/
theorem step_ok {r : Request} {outcome : Outcome} {after : Session σ}
    (ran : (r.command.run E load).run s = (.ok outcome, after)) :
    step E load r s =
      (.ok outcome.reply, outcome.made.elim after fun o => (keep E r.into o after).2) := by
  rw [step, bind_apply, show (r.command.run E load).run s = _ from ran]
  obtain ⟨reply, made⟩ := outcome
  cases made <;> rfl

theorem made_error {r : Request} {fault : Fault} {after : Session σ}
    (ran : (r.command.run E load).run s = (.error fault, after)) : s.made E load r = none := by
  rw [made, ran]
  rfl

theorem made_ok {r : Request} {outcome : Outcome} {after : Session σ}
    (ran : (r.command.run E load).run s = (.ok outcome, after)) : s.made E load r = outcome.made := by
  rw [made, ran]
  rfl

theorem renewed_error (r : Request) (fault : Fault) : s.renewed r (.error fault) = none := by
  unfold renewed
  split <;> simp_all

/-- Only reparsing renews a unit. -/
theorem renewed_of_ne {r : Request} (renews : ∀ on unsaved options, r.command ≠ .reparse on unsaved options)
    (reply : Except Fault Reply) : s.renewed r reply = none := by
  unfold renewed
  split
  · exact absurd ‹_› (renews _ _ _)
  · rfl

/-- A request that has made nothing. -/
theorem Stepped.unmade {r : Request} {reply : Except Fault Reply} {after : Session σ}
    (made : s.made E load r = none)
    (entered : ∃ b, Books.Course (s.books, s.owners) (b, after.owners) ∧
      after.books = (s.renewed r reply).elim b b.renew)
    (sound : after.Sound) (continues : s.Continues after) : Stepped E load s r reply after := by
  refine ⟨entered, sound, fun slot o present => ?_⟩
  rw [made, if_neg (by simp)]
  exact continues slot o present

private theorem stepped_reparse (sound : s.Sound) (on : String) (unsaved : List UnsavedFile)
    (options : Option ReparseOptions) (into : Option String) :
    Stepped E load s ⟨.reparse on unsaved options, into⟩
      (step E load ⟨.reparse on unsaved options, into⟩ s).1
      (step E load ⟨.reparse on unsaved options, into⟩ s).2 := by
  have entered : Ensures ((Command.reparse on unsaved options).run E load) s _ :=
    Command.reparse_enters sound on unsaved options
  rw [Ensures] at entered
  have kept {w : World σ} (grown : s.books.Extends w.books) : Session.Sound ⟨w, s.slots⟩ :=
    ⟨sound.ordered, fun slot o present => (sound.objects slot o present).mono grown⟩
  rcases ran : ((Command.reparse on unsaved options).run E load).run s with ⟨fault | outcome, ⟨w, slots⟩⟩
  · rw [ran] at entered
    obtain ⟨rfl, course⟩ : slots = s.slots ∧ _ := entered
    rw [step_error ran]
    exact .unmade (made_error ran) ⟨w.books, course, rfl⟩ (kept (.course course)) (.refl s)
  · rw [ran] at entered
    obtain ⟨rfl, none, u, b, present, course, renewed⟩ : slots = s.slots ∧ _ := entered
    rw [step_ok ran, none, Option.elim_none]
    refine .unmade ((made_ok ran).trans none) ⟨b, course, ?_⟩ (kept ?_) (.refl s)
    · simpa [Session.renewed, present, Object.unit?] using renewed
    · rw [show w.books = b.renew u from renewed]
      exact (Books.Extends.course course).trans (.renew b u)

/-- A request that has made an object, which is kept in its slot or let go of. -/
private theorem stepped_made (sound : s.Sound) {r : Request} {outcome : Outcome} {middle : Session σ} {x : Object}
    (ran : (r.command.run E load).run s = (.ok outcome, middle)) (new : outcome.made = some x)
    (renewed : ∀ reply, s.renewed r reply = none) (entered : Job.Entered s x.owners middle)
    (yields : r.command.Yields s middle.books x) :
    Stepped E load s r (step E load r s).1 (step E load r s).2 := by
  obtain ⟨kept, sound'⟩ := keep_enters (E := E) entered.sound (yields.sound sound) r.into
  rw [step_ok ran, new]
  constructor
  case entered => exact ⟨_, entered.entered.trans kept, by rw [renewed]; rfl⟩
  case sound => exact sound'
  case objects =>
    intro slot o present
    rw [made_ok ran, new]
    change (keep E r.into x middle).2.slots.find? slot = some o at present
    rw [keep_slots] at present
    cases into : r.into with
    | none =>
      rw [into] at present
      rw [if_neg (by simp)]
      exact entered.continues slot o present
    | some target =>
      rw [into, Option.elim_some, SlotMap.find?_insert] at present
      split_ifs at present with here
      · rw [if_pos ⟨congrArg some here.symm, rfl⟩]
        obtain rfl := Option.some.inj present
        rw [into] at kept
        exact yields.mono (.course kept)
      · rw [if_neg fun both => here (Option.some.inj both.1).symm]
        exact entered.continues slot o present

/-- Whatever is requested, the books follow and the slots hold sound objects. -/
theorem step_stepped (silent : Silent load) (sound : s.Sound) (r : Request)
    (graph : r.command.OnGraph) :
    Stepped E load s r (step E load r s).1 (step E load r s).2 := by
  by_cases renews : ∃ on unsaved options, r.command = .reparse on unsaved options
  · obtain ⟨on, unsaved, options, same⟩ := renews
    obtain ⟨command, into⟩ := r
    obtain rfl : command = .reparse on unsaved options := same
    exact stepped_reparse sound on unsaved options into
  have other : ∀ on unsaved options, r.command ≠ .reparse on unsaved options :=
    fun on unsaved options same => renews ⟨on, unsaved, options, same⟩
  have entered := Command.run_enters (E := E) silent sound r.command graph other
  rw [Job.Enters, Ensures] at entered
  rcases ran : (r.command.run E load).run s with ⟨fault | outcome, middle⟩
  · rw [ran] at entered
    have course := entered.entered
    rw [zero_add] at course
    rw [step_error ran]
    exact .unmade (made_error ran) ⟨_, course, by rw [renewed_of_ne other]; rfl⟩ entered.sound
      entered.continues
  · rw [ran] at entered
    obtain ⟨entered, yields⟩ := entered
    rw [Outcome.owners] at entered
    cases new : outcome.made with
    | some x =>
      rw [new] at entered
      exact stepped_made sound ran new (renewed_of_ne other) entered (yields x new)
    | none =>
      rw [new] at entered
      have course := entered.entered
      rw [Option.elim_none, zero_add] at course
      rw [step_ok ran, new]
      exact .unmade ((made_ok ran).trans new) ⟨_, course, by rw [renewed_of_ne other]; rfl⟩
        entered.sound entered.continues

/-! ## Runs -/

theorem run_cons (r : Request) (rest : List Request) (s : Session σ) :
    run E load (r :: rest) s = ((step E load r s).1 :: (run E load rest (step E load r s).2).1,
      (run E load rest (step E load r s).2).2) := by
  unfold run
  rw [List.mapM_cons, bind_apply, bind_apply]
  rfl

/-- Later requests go on from where earlier ones came to. -/
theorem run_append (earlier later : List Request) (s : Session σ) :
    (run E load (earlier ++ later) s).2 = (run E load later (run E load earlier s).2).2 := by
  unfold run
  rw [List.mapM_append]
  rfl

def after (E : Engine σ) (load : Loading σ Unit) (engine : σ) (requests : List Request) : Session σ :=
  ((run E load requests).run (start engine)).2

theorem after_concat (engine : σ) (requests : List Request) (r : Request) :
    after E load engine (requests ++ [r]) = (step E load r (after E load engine requests)).2 := by
  unfold after run
  rw [List.mapM_append, List.mapM_cons, List.mapM_nil]
  rfl

/-- Sound objects in the slots, and books that are kept for the owners in them. -/
structure Kept (s : Session σ) : Prop where
  sound : s.Sound
  books : s.books.Kept s.owners

/-- A session starts with nothing in its books. -/
theorem Kept.start (engine : σ) : (Session.start engine).Kept where
  sound := ⟨SlotMap.ordered_empty, nofun⟩
  books := Books.Kept.start

/-- The books are kept over a request, whether it succeeds or fails. -/
theorem Kept.step (kept : s.Kept) (silent : Silent load) {r : Request}
    (graph : r.command.OnGraph) : (step E load r s).2.Kept := by
  obtain ⟨⟨b, course, renewed⟩, sound, -⟩ := step_stepped (E := E) silent kept.sound r graph
  refine ⟨sound, ?_⟩
  have booked : b.Kept (Session.step E load r s).2.owners := kept.books.course course
  rw [renewed]
  cases s.renewed r (Session.step E load r s).1 with
  | none => exact booked
  | some u => exact booked.renew u

theorem Stepped.extends {r : Request} {reply : Except Fault Reply} {after : Session σ}
    (stepped : Stepped E load s r reply after) : s.books.Extends after.books := by
  obtain ⟨b, course, renewed⟩ := stepped.entered
  rw [renewed]
  cases s.renewed r reply with
  | none => exact .course course
  | some u => exact (Books.Extends.course course).trans (.renew b u)

/-- The books of a run go on from those of its beginning. -/
theorem Kept.run (kept : s.Kept) (silent : Silent load) {requests : List Request}
    (graph : ∀ r ∈ requests, r.command.OnGraph) :
    (run E load requests s).2.Kept ∧ s.books.Extends (run E load requests s).2.books := by
  induction requests generalizing s with
  | nil => exact ⟨kept, .refl _⟩
  | cons r rest ih =>
    rw [run_cons]
    have first := step_stepped (E := E) silent kept.sound r (graph r List.mem_cons_self)
    obtain ⟨kept, grown⟩ := ih (kept.step silent (graph r List.mem_cons_self))
      fun q member => graph q (List.mem_cons_of_mem _ member)
    exact ⟨kept, first.extends.trans grown⟩

/-- So they are over a run, by induction on the requests. -/
theorem Kept.after (silent : Silent load) (engine : σ) {requests : List Request}
    (graph : ∀ r ∈ requests, r.command.OnGraph) : (after E load engine requests).Kept :=
  ((Kept.start engine).run silent graph).1

/-- Books only grow from one request to the next. -/
theorem after_extends (silent : Silent load) (engine : σ)
    {earlier requests : List Request} (graph : ∀ r ∈ requests, r.command.OnGraph)
    (begins : earlier <+: requests) :
    (after E load engine earlier).books.Extends (after E load engine requests).books := by
  obtain ⟨later, rfl⟩ := begins
  have kept := Kept.after (E := E) silent engine fun r member => graph r (List.mem_append_left _ member)
  have goesOn : after E load engine (earlier ++ later) = (Session.run E load later (after E load engine earlier)).2 :=
    run_append earlier later _
  rw [goesOn]
  exact (kept.run silent fun r member => graph r (List.mem_append_right _ member)).2

private theorem dropAll_enters (objects : List Object) :
    Books.Course (s.books, (objects.map Object.owners).sum)
        ((objects.forM (fun o => act (o.drop E)) s).2.books, 0) ∧
      (objects.forM (fun o => act (o.drop E)) s).2.slots = s.slots := by
  induction objects generalizing s with
  | nil => exact ⟨.refl, rfl⟩
  | cons o rest ih =>
    obtain ⟨course, slots⟩ := ih (s := { s with world := (o.drop E s.world).2 })
    rw [List.map_cons, List.sum_cons]
    exact ⟨o.drop_course.trans course, slots⟩

/-- At the end of a session every object is let go of. -/
theorem close_enters (s : Session σ) :
    Books.Course (s.books, s.owners) ((close E s).2.books, 0) ∧ (close E s).2.slots = .empty :=
  dropAll_enters (s := { s with slots := SlotMap.empty }) s.slots.values

end Session

/-! ## A short session -/

namespace Sample

/-- A position that leads to itself and is its only child. -/
def node : Script.Node where
  kind := 300
  texts _ := .text [102]
  links _ := .node 0
  children := [.node 0]
  args := []
  argCount := none
  hash := 7
  tests _ := 0
  bits := none

/-- An engine that knows one source. -/
def script : Script.State := { sources := [([97], ⟨.text [97], .node 0, [node], []⟩)] }

/-- A unit is parsed and reparsed, and let go of while a cursor and its children are in use. -/
def requests : List Request := [
  ⟨.createIndex {}, some "index"⟩,
  ⟨.parse "index" [97] [] [] ⟨0⟩, some "unit"⟩,
  ⟨.root "unit", some "root"⟩,
  ⟨.reparse "unit" [] none, none⟩,
  ⟨.drop "index", none⟩,
  ⟨.drop "unit", none⟩,
  ⟨.ask ⟨"root", [.canonical]⟩ .spelling, none⟩,
  ⟨.ask ⟨"root", []⟩ .children, some "children"⟩,
  ⟨.drop "root", none⟩,
  ⟨.access "children" .front, some "child"⟩]

theorem requests_onGraph : ∀ r ∈ requests, r.command.OnGraph := by simp [requests, Command.OnGraph]

end Sample

end HandleGraph
