import HandleGraph.Proofs.Sessions

/-! # Staleness

A unit's generation is the number of its reparses that succeeded. A cursor keeps the generation of the
root that it was reached from, whatever was called on the way and whenever, so it is stale exactly when
the unit was reparsed since that root was taken. The history that tells this is kept beside the session.
-/

namespace HandleGraph

variable {σ : Type} {E : Engine σ} {load : Loading σ Unit} {s : Session σ}

/-! ## Places -/

namespace Object

variable {b : Books} {u : TranslationUnit} {generation : UInt64}

/-- A sound object is of the unit and generation of its place. -/
theorem Of.transfer {o old : Object} (of : old.Of b u generation) (same : o.place = old.place)
    {later : Books} (grown : b.Extends later) (sound : o.Sound later) : o.Of later u generation := by
  cases o with
  | index | unit | file | cursors =>
    cases old <;> cases same
    exact of.mono grown
  | cursor c =>
    cases old with
    | index | unit | file | cursors => cases same
    | cursor d =>
      obtain ⟨-, unit, made, -⟩ := Cursor.mk.inj (Object.cursor.inj same)
      obtain ⟨v, other, rooted⟩ := sound
      cases rooted with
      | absent => exact .absent
      | position live links =>
        have there := Cursor.Rooted.live of (unit.symm.trans live.unit)
        obtain rfl : v = u := Option.some.inj ((live.unit.symm.trans unit).trans there.unit)
        obtain rfl : other = generation := (live.generation.symm.trans made).trans there.generation
        exact .position live links

end Object

namespace Cursor

variable {b : Books} {u : TranslationUnit} {generation : UInt64} {c : Cursor}

private theorem Live.isNull_eq (live : c.Live b u generation) : c.isNull = false := by
  rw [isNull, live.valid, live.unit]
  rfl

private theorem Rooted.isStale_eq_of_isNull (rooted : c.Rooted b u generation) (absent : c.isNull) (w : World σ) :
    c.isStale w = false := by
  cases rooted with
  | absent => rfl
  | position live _ =>
    rw [live.isNull_eq] at absent
    cases absent

private theorem Rooted.live_of_isNull (rooted : c.Rooted b u generation) (valid : ¬c.isNull) :
    c.Live b u generation := by
  cases rooted with
  | absent => exact absurd rfl valid
  | position live _ => exact live

end Cursor

/-! ## What a request changes -/

private theorem Command.onGraph_or (c : Command) : c.OnGraph ∨ ∃ on, c = .readNullString on := by
  cases c with
  | readNullString on => exact .inr ⟨on, rfl⟩
  | _ => exact .inl trivial

/-- The null string is read without any change to units and slots. -/
theorem Command.readNullString_keeps (on : String) :
    Ensures ((Command.readNullString on).run E load) s fun result after =>
      s.books.Extends after.books ∧ after.world.units = s.world.units ∧ after.slots = s.slots ∧
        ∀ o, result = .ok o → o.made = none := by
  unfold run
  rw [Ensures.bind_iff, Job.held_iff]
  cases s.slots.find? on >>= Object.index? with
  | none =>
    refine ⟨.refl _, rfl, rfl, fun o failed => ?_⟩
    cases failed
  | some i =>
    refine ⟨⟨List.prefix_append _ _, List.prefix_rfl, List.prefix_rfl⟩, rfl, rfl, ?_⟩
    rintro o ⟨⟩
    rfl

/-- What any request changes: it may make a new generation of one unit, and objects stay in their places
or are made anew. -/
structure Session.Passes (E : Engine σ) (load : Loading σ Unit) (s : Session σ) (r : Request)
    (reply : Except Fault Reply) (after : Session σ) : Prop where
  grown : s.books.Extends after.books
  generation : ∀ u : TranslationUnit, u.generation after.world =
    u.generation s.world + if s.renewed r reply = some u then 1 else 0
  sound : after.Sound
  objects : ∀ slot o, after.slots.find? slot = some o →
    if r.into = some slot ∧ (s.made E load r).isSome then r.command.Yields s after.books o
    else ∃ old, s.slots.find? slot = some old ∧ o.place = old.place

def Command.isReparse : Command → Bool
  | .reparse .. => true
  | _ => false

namespace Session

private theorem isReparse_of_renewed {r : Request} {reply : Except Fault Reply} {u : TranslationUnit}
    (renewed : s.renewed r reply = some u) : r.command.isReparse := by
  unfold Session.renewed at renewed
  split at renewed
  · next same => rw [same]; rfl
  · cases renewed

/-- Only a unit in a slot is renewed. -/
theorem Sound.known_of_renewed (sound : s.Sound) {r : Request} {reply : Except Fault Reply}
    {u : TranslationUnit} (renewed : s.renewed r reply = some u) : u.cell < s.books.units.length := by
  unfold Session.renewed at renewed
  split at renewed
  · obtain ⟨o, present, picked⟩ := Option.bind_eq_some_iff.mp renewed
    obtain rfl := Object.eq_of_unit? picked
    exact (sound.unit present).2
  · cases renewed

private theorem Stepped.passes {r : Request} {reply : Except Fault Reply} {after : Session σ} (sound : s.Sound)
    (stepped : Stepped E load s r reply after) : Passes E load s r reply after where
  grown := stepped.extends
  sound := stepped.sound
  objects := stepped.objects
  generation u := by
    obtain ⟨b, course, renewed⟩ := stepped.entered
    have kept : u.generation b = u.generation s.world := course.generation u
    change u.generation after.books = _
    rw [renewed]
    cases which : s.renewed r reply with
    | none => simpa using kept
    | some v =>
      have known : v.cell < b.units.length :=
        (sound.known_of_renewed which).trans_le (Books.Extends.course course).units_length
      simp only [Option.elim_some, Option.some.injEq, b.generation_renew known, kept]

/-- Whatever is requested, units and objects pass on what they are. -/
theorem step_passes (silent : Silent load) (sound : s.Sound) (r : Request) :
    Passes E load s r (step E load r s).1 (step E load r s).2 := by
  rcases r.command.onGraph_or with graph | ⟨on, same⟩
  · exact (step_stepped silent sound r graph).passes sound
  obtain ⟨command, into⟩ := r
  obtain rfl : command = .readNullString on := same
  have kept : Ensures ((Command.readNullString on).run E load) s _ := Command.readNullString_keeps on
  rw [Ensures] at kept
  rcases ran : ((Command.readNullString on).run E load).run s with ⟨result, w, slots⟩
  rw [ran] at kept
  obtain ⟨grown, units, rfl, makes⟩ : _ ∧ w.units = _ ∧ slots = s.slots ∧ _ := kept
  have passes (reply : Except Fault Reply) (made : s.made E load ⟨.readNullString on, into⟩ = none) :
      Passes E load s ⟨.readNullString on, into⟩ reply ⟨w, s.slots⟩ := by
    constructor
    case grown => exact grown
    case generation =>
      intro u
      rw [renewed_of_ne (by simp)]
      simp [TranslationUnit.generation, units]
    case sound =>
      exact ⟨sound.ordered, fun slot o present => (sound.objects slot o present).mono grown⟩
    case objects =>
      intro slot o present
      rw [made, if_neg (by simp)]
      exact ⟨o, present, rfl⟩
  cases result with
  | error fault =>
    rw [step_error ran]
    exact passes _ (made_error (r := ⟨.readNullString on, into⟩) ran)
  | ok outcome =>
    have made := makes outcome rfl
    rw [step_ok ran, made]
    exact passes _ ((made_ok (r := ⟨.readNullString on, into⟩) ran).trans made)

end Session

/-! ## Histories -/

/-- Where a cursor comes from: the unit whose root was taken, and how many requests came before that. -/
structure Origin where
  time : Nat
  unit : TranslationUnit
deriving DecidableEq

/-- A session with its history: for every request the unit that it has reparsed successfully, if any, and
for every slot the origin of the cursors in it. -/
structure Chronicle (σ : Type) where
  session : Session σ
  renewals : List (Option TranslationUnit)
  origins : String → Option Origin

namespace Chronicle

/-- The origin of what a command makes. A root is an origin of its own, and anything else that is reached
from an object has the origin of that object. -/
def source (h : Chronicle σ) : Command → Option Origin
  | .root on => (h.session.slots.find? on >>= Object.unit?).map (⟨h.renewals.length, ·⟩)
  | .ask on _ => h.origins on.slot
  | .access on _ | .clone on => h.origins on
  | _ => none

/-- Carry out a request and write it down. -/
def step (E : Engine σ) (load : Loading σ Unit) (h : Chronicle σ) (r : Request) : Chronicle σ where
  session := (Session.step E load r h.session).2
  renewals := h.renewals ++ [h.session.renewed r (Session.step E load r h.session).1]
  origins slot :=
    if r.into = some slot ∧ (h.session.made E load r).isSome then h.source r.command else h.origins slot

def of (E : Engine σ) (load : Loading σ Unit) (engine : σ) (requests : List Request) : Chronicle σ :=
  requests.foldl (step E load) ⟨.start engine, [], fun _ => none⟩

/-- Whether a unit was reparsed successfully since the root of an origin was taken. -/
def RenewedSince (h : Chronicle σ) (origin : Origin) : Prop :=
  some origin.unit ∈ h.renewals.drop origin.time

/-- How often a unit had been reparsed when the root of an origin was taken. -/
def generationAt (h : Chronicle σ) (origin : Origin) : UInt64 :=
  .ofNat ((h.renewals.take origin.time).count (some origin.unit))

/-- An object is of the unit of its origin, as of the time of its origin. Without an origin it is of no
unit in particular. -/
def Dates (h : Chronicle σ) (b : Books) (o : Object) : Option Origin → Prop
  | some origin => origin.time ≤ h.renewals.length ∧ o.Of b origin.unit (h.generationAt origin)
  | none => ∀ u generation, o.Of b u generation

/-- The history tells the generations of units and the places of objects. -/
structure Tracks (h : Chronicle σ) : Prop where
  sound : h.session.Sound
  generation : ∀ u : TranslationUnit,
    u.generation h.session.world = .ofNat (h.renewals.count (some u))
  objects : ∀ slot o, h.session.slots.find? slot = some o → h.Dates h.session.books o (h.origins slot)

variable {h : Chronicle σ}

private theorem of_concat (engine : σ) (requests : List Request) (r : Request) :
    of E load engine (requests ++ [r]) = (of E load engine requests).step E load r := by
  rw [of, List.foldl_append]
  rfl

/-- The session of a history is the session after its requests. -/
theorem of_session (engine : σ) (requests : List Request) :
    (of E load engine requests).session = Session.after E load engine requests := by
  induction requests using List.reverseRecOn with
  | nil => rfl
  | append_singleton earlier r ih => rw [of_concat, Session.after_concat, step, ih]

private theorem generationAt_step {origin : Origin} (past : origin.time ≤ h.renewals.length) (r : Request) :
    (h.step E load r).generationAt origin = h.generationAt origin := by
  rw [generationAt, generationAt, step, List.take_append_of_le_length past]

/-- What is of the unit and generation of an object dates from the same origin. -/
theorem Dates.imp {b later : Books} {o next : Object} {origin : Option Origin} (dates : h.Dates b o origin)
    (follows : ∀ u generation, o.Of b u generation → next.Of later u generation) :
    h.Dates later next origin := by
  cases origin with
  | none => exact fun u generation => follows u generation (dates u generation)
  | some origin => exact ⟨dates.1, follows _ _ dates.2⟩

/-- An origin in the past stays what it is. -/
theorem Dates.step {b : Books} {o : Object} {origin : Option Origin} (dates : h.Dates b o origin)
    (r : Request) : (h.step E load r).Dates b o origin := by
  cases origin with
  | none => exact dates
  | some origin =>
    constructor
    · rw [Chronicle.step, List.length_append]
      exact dates.1.trans (Nat.le_add_right _ _)
    · rw [generationAt_step dates.1]
      exact dates.2

/-- What a command makes dates from the origin that is written down. -/
theorem Tracks.dates_made (tracks : h.Tracks) (r : Request) {b : Books} {o : Object}
    (yields : r.command.Yields h.session b o) : (h.step E load r).Dates b o (h.source r.command) := by
  cases command : r.command with
  | root on =>
    rw [command] at yields
    obtain ⟨u, present, of⟩ := yields
    rw [source, present]
    refine ⟨by simp [Chronicle.step], ?_⟩
    rw [generationAt_step (Nat.le_refl _), generationAt, List.take_length]
    exact tracks.generation u ▸ of
  | ask on question =>
    rw [command] at yields
    obtain ⟨c, present, next⟩ := yields
    exact ((tracks.objects _ _ present).imp next).step r
  | access on element =>
    rw [command] at yields
    obtain ⟨q, present, of⟩ := yields
    refine ((tracks.objects _ _ present).imp ?_).step r
    rintro u generation ⟨-, rfl, rfl⟩
    exact of
  | clone on =>
    rw [command] at yields
    obtain ⟨x, present, next⟩ := yields
    exact ((tracks.objects _ x present).imp next).step r
  | _ =>
    rw [command] at yields
    exact yields

/-- A history goes on to tell generations and places, whatever is requested. -/
theorem Tracks.step (tracks : h.Tracks) (silent : Silent load) (r : Request) :
    (h.step E load r).Tracks := by
  have passes := Session.step_passes (E := E) silent tracks.sound r
  constructor
  case sound => exact passes.sound
  case generation =>
    intro u
    have counted := passes.generation u
    rw [tracks.generation u] at counted
    simp only [Chronicle.step, List.count_append, List.count_singleton, UInt64.ofNat_add, beq_iff_eq]
    rw [counted]
    split_ifs <;> rfl
  case objects =>
    intro slot o present
    have placed := passes.objects slot o present
    change (h.step E load r).Dates _ o (if r.into = some slot ∧ (h.session.made E load r).isSome
      then h.source r.command else h.origins slot)
    split_ifs at placed ⊢ with new
    · exact tracks.dates_made r placed
    · obtain ⟨old, there, place⟩ := placed
      refine ((tracks.objects slot old there).imp fun u generation of => ?_).step r
      exact of.transfer place passes.grown (passes.sound.objects slot o present)

private theorem Tracks.of (silent : Silent load) (engine : σ) (requests : List Request) :
    (of E load engine requests).Tracks := by
  induction requests using List.reverseRecOn with
  | nil => exact ⟨(Session.Kept.start engine).sound, fun _ => rfl, nofun⟩
  | append_singleton earlier r ih =>
    rw [of_concat]
    exact ih.step silent r

/-- A unit has another generation than at an origin exactly when it was renewed since. -/
theorem Tracks.generation_ne_iff (tracks : h.Tracks) {origin : Origin}
    (few : h.renewals.count (some origin.unit) < UInt64.size) :
    origin.unit.generation h.session.world ≠ h.generationAt origin ↔ h.RenewedSince origin := by
  have split : h.renewals.count (some origin.unit) = (h.renewals.take origin.time).count (some origin.unit) +
      (h.renewals.drop origin.time).count (some origin.unit) := by
    rw [← List.count_append, List.take_append_drop]
  rw [tracks.generation, generationAt, RenewedSince, ← List.count_pos_iff, Ne, ← UInt64.toNat_inj,
    UInt64.toNat_ofNat_of_lt' few, UInt64.toNat_ofNat_of_lt' (by omega)]
  omega

/-- A cursor is stale in a world exactly when its unit was renewed since its origin. Only the null cursor
needs no origin, and it is never stale. -/
def Judges (h : Chronicle σ) (w : World σ) (c : Cursor) (origin : Option Origin) : Prop :=
  if c.isNull then c.isStale w = false
  else ∃ root, origin = some root ∧ c.unit = some root.unit ∧ (c.isStale w ↔ h.RenewedSince root)

/-- At the end of a history, which is that of a session, generations count the reparses, and every cursor is
stale exactly when it should be: those in slots, those that they remember, and those that are reached as
elements of a sequence. -/
structure Exact (E : Engine σ) (s : Session σ) (h : Chronicle σ) : Prop where
  session : h.session = s
  generation : ∀ u : TranslationUnit, (u.generation h.session.world).toNat = h.renewals.count (some u)
  cursor : ∀ slot c path d, h.session.slots.find? slot = some (.cursor c) → c.follow path = some d →
    h.Judges h.session.world d (h.origins slot)
  element : ∀ slot q index, h.session.slots.find? slot = some (.cursors q) →
    Ensures (q.produce E index) h.session.world fun result w => ∀ c, result = .ok c →
      h.Judges w c (h.origins slot)

/-- A cursor that dates from an origin is judged by it. -/
theorem Tracks.judges (tracks : h.Tracks) (few : ∀ u, h.renewals.count (some u) < UInt64.size)
    {w : World σ} (same : ∀ u : TranslationUnit, u.generation w = u.generation h.session.world)
    {b : Books} {c : Cursor} {origin : Option Origin} (dates : h.Dates b (.cursor c) origin) :
    h.Judges w c origin := by
  unfold Judges
  split_ifs with absent
  · cases origin with
    | none => exact (dates ⟨0⟩ 0).isStale_eq_of_isNull absent w
    | some origin => exact Cursor.Rooted.isStale_eq_of_isNull dates.2 absent w
  · cases origin with
    | none =>
      -- no cursor is of two generations
      have zero := ((dates ⟨0⟩ 0).live_of_isNull absent).generation
      have one := ((dates ⟨0⟩ 1).live_of_isNull absent).generation
      exact absurd (zero.symm.trans one) (by decide)
    | some origin =>
      have live := Cursor.Rooted.live_of_isNull dates.2 absent
      refine ⟨origin, rfl, live.unit, ?_⟩
      rw [← tracks.generation_ne_iff (few _), Cursor.isStale, live.unit, live.generation, Option.any_some,
        same, bne_iff_ne]

private theorem Tracks.exact (tracks : h.Tracks) (few : ∀ u, h.renewals.count (some u) < UInt64.size) :
    h.Exact E h.session where
  session := rfl
  generation u := by rw [tracks.generation, UInt64.toNat_ofNat_of_lt' (few u)]
  cursor slot c path d present reached := by
    have dates : h.Dates h.session.books (.cursor d) (h.origins slot) :=
      (tracks.objects slot _ present).imp fun _ _ rooted => Cursor.Rooted.follow rooted reached
    exact tracks.judges few (fun _ => rfl) dates
  element slot q index present := by
    obtain ⟨own, sequence⟩ := tracks.sound.cursors present
    apply (CursorSequence.produce_enters (E := E) own sequence index).mono
    rintro result w entered c rfl
    obtain ⟨course, rooted⟩ := entered
    have dates : h.Dates w.books (.cursor c) (h.origins slot) := by
      apply (tracks.objects slot _ present).imp
      rintro u generation ⟨-, rfl, rfl⟩
      exact rooted
    exact tracks.judges few (fun u => course.generation u) dates

/-- Only reparses make new generations. -/
theorem count_renewals_le (engine : σ) (requests : List Request) (u : TranslationUnit) :
    (of E load engine requests).renewals.count (some u) ≤ requests.countP (·.command.isReparse) := by
  induction requests using List.reverseRecOn with
  | nil => exact Nat.le_refl 0
  | append_singleton earlier r ih =>
    rw [of_concat, step, List.count_append, List.countP_append, List.count_singleton, List.countP_singleton]
    apply Nat.add_le_add ih
    split_ifs with renews reparse
    · exact Nat.le_refl 1
    · exact absurd (Session.isReparse_of_renewed (beq_iff_eq.mp renews)) reparse
    all_goals exact Nat.zero_le _

/-- With fewer than 2^64 reparses, whether they succeed or not, generations count the successful reparses
of each unit, and a cursor is stale exactly when its unit was reparsed since its root was taken. -/
theorem staleness_exact (silent : Silent load) (engine : σ) (requests : List Request)
    (few : requests.countP (·.command.isReparse) < 2 ^ 64) :
    (of E load engine requests).Exact E (Session.after E load engine requests) :=
  of_session engine requests ▸
    (Tracks.of silent engine requests).exact fun u => (count_renewals_le engine requests u).trans_lt few

theorem staleness_exact_sample :
    Sample.requests.countP (·.command.isReparse) < 2 ^ 64 ∧
      (of Script.engine (pure ()) Sample.script Sample.requests).Exact Script.engine
        (Session.after Script.engine (pure ()) Sample.script Sample.requests) ∧
      (TranslationUnit.generation ⟨0⟩
        (of Script.engine (pure ()) Sample.script Sample.requests).session.world).toNat = 1 := by
  have few : Sample.requests.countP (·.command.isReparse) < 2 ^ 64 := by decide +kernel
  have told := staleness_exact (E := Script.engine) silent_pure Sample.script Sample.requests few
  refine ⟨few, told, (told.generation ⟨0⟩).trans ?_⟩
  decide +kernel

end Chronicle

end HandleGraph
