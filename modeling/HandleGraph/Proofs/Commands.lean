import HandleGraph.Clang.Binding
import HandleGraph.Proofs.InspectOperations
import HandleGraph.Proofs.SlotOrder

/-! # What commands enter

The objects in the slots of a session own what they hold, and nothing else does between commands. A
command keeps that in the books; what it makes is owned besides. The objects that stay in their slots
keep their places, and an object that is made from another is of the same unit and generation.
-/

namespace HandleGraph

variable {σ α : Type} {E : Engine σ}

/-! ## Owners in slots -/

def SlotMap.owners (m : SlotMap Object) : Multiset Owner := (m.values.map Object.owners).sum

namespace SlotMap.Ordered

variable {m : SlotMap Object}

theorem owners_erase (ordered : m.Ordered) {slot : String} {o : Object} (present : m.find? slot = some o) :
    m.owners = o.owners + (m.erase slot).owners := by
  rw [owners, ((ordered.values_erase present).map Object.owners).sum_eq]
  rfl

/-- What a slot held before goes out when another object goes in. -/
theorem owners_insert (ordered : m.Ordered) (slot : String) (o : Object) :
    (m.insert slot o).owners = o.owners + (m.erase slot).owners := by
  rw [owners, ((ordered.values_insert slot o).map Object.owners).sum_eq]
  rfl

/-- The owners are those of the objects in the slots. -/
theorem mem_owners_iff (ordered : m.Ordered) {owner : Owner} :
    owner ∈ m.owners ↔ ∃ slot o, m.find? slot = some o ∧ owner ∈ o.owners := by
  rw [owners, Owner.mem_sum_map]
  simp only [ordered.mem_values_iff]
  constructor
  · rintro ⟨o, ⟨slot, present⟩, own⟩
    exact ⟨slot, o, present, own⟩
  · rintro ⟨slot, o, present, own⟩
    exact ⟨o, ⟨slot, present⟩, own⟩

end SlotMap.Ordered

/-- An object but for what cursors remember. -/
def Object.place : Object → Object
  | .cursor c => .cursor { c with memo := .empty }
  | o => o

namespace Object

theorem eq_of_index? {o : Object} {i : Index} (picked : o.index? = some i) : o = .index i := by
  cases o <;> simp_all [index?]

theorem eq_of_unit? {o : Object} {u : TranslationUnit} (picked : o.unit? = some u) : o = .unit u := by
  cases o <;> simp_all [unit?]

private theorem eq_of_file? {o : Object} {f : File} (picked : o.file? = some f) : o = .file f := by
  cases o <;> simp_all [file?]

theorem eq_of_cursor? {o : Object} {c : Cursor} (picked : o.cursor? = some c) : o = .cursor c := by
  cases o <;> simp_all [cursor?]

theorem eq_of_cursors? {o : Object} {q : CursorSequence} (picked : o.cursors? = some q) :
    o = .cursors q := by
  cases o <;> simp_all [cursors?]

end Object

namespace Session

abbrev books (s : Session σ) : Books := s.world.books

abbrev owners (s : Session σ) : Multiset Owner := s.slots.owners

/-- The slots are in order and hold sound objects. -/
structure Sound (s : Session σ) : Prop where
  ordered : s.slots.Ordered
  objects : ∀ slot o, s.slots.find? slot = some o → o.Sound s.books

/-- Every object comes from the same slot of an earlier session, in its old place. -/
def Continues (s after : Session σ) : Prop :=
  ∀ slot o, after.slots.find? slot = some o → ∃ old, s.slots.find? slot = some old ∧ o.place = old.place

theorem Continues.refl (s : Session σ) : s.Continues s := fun _ o present => ⟨o, present, rfl⟩

private theorem Continues.trans {s middle after : Session σ} (first : s.Continues middle)
    (second : middle.Continues after) : s.Continues after := by
  intro slot o present
  obtain ⟨between, present, here⟩ := second slot o present
  obtain ⟨old, present, there⟩ := first slot between present
  exact ⟨old, present, here.trans there⟩

variable {s : Session σ}

/-- An object in a slot owns what it owns for the session. -/
theorem Sound.mem_owners (sound : s.Sound) {slot : String} {o : Object}
    (present : s.slots.find? slot = some o) {owner : Owner} (own : owner ∈ o.owners) : owner ∈ s.owners :=
  sound.ordered.mem_owners_iff.mpr ⟨slot, o, present, own⟩

namespace Sound

theorem index (sound : s.Sound) {slot : String} {i : Index}
    (present : s.slots.find? slot = some (.index i)) : .index i ∈ s.owners :=
  sound.mem_owners present (Multiset.mem_singleton_self (Owner.index i))

/-- A unit in a slot is owned and has its cell. -/
theorem unit (sound : s.Sound) {slot : String} {u : TranslationUnit}
    (present : s.slots.find? slot = some (.unit u)) :
    .unit u ∈ s.owners ∧ u.cell < s.world.units.length := by
  obtain ⟨_, _, known⟩ := sound.objects slot _ present
  exact ⟨sound.mem_owners present (Multiset.mem_singleton_self (Owner.unit u)), known⟩

private theorem file (sound : s.Sound) {slot : String} {f : File}
    (present : s.slots.find? slot = some (.file f)) : .unit f.unit ∈ s.owners ∧ f.Sound s.books := by
  obtain ⟨_, _, file⟩ := sound.objects slot _ present
  exact ⟨sound.mem_owners present (Multiset.mem_singleton_self (Owner.unit f.unit)), file⟩

theorem cursors (sound : s.Sound) {slot : String} {q : CursorSequence}
    (present : s.slots.find? slot = some (.cursors q)) : .unit q.unit ∈ s.owners ∧ q.Sound s.books := by
  obtain ⟨_, _, sequence, -⟩ := sound.objects slot _ present
  exact ⟨sound.mem_owners present (Multiset.mem_singleton_self (Owner.unit q.unit)), sequence⟩

end Sound

end Session

/-- What a command may make in a session: an object made from another one is of its unit and generation,
a root of the current generation. -/
def Command.Yields (s : Session σ) (b : Books) (o : Object) : Command → Prop
  | .root on => ∃ u, s.slots.find? on = some (.unit u) ∧ o.Of b u (u.generation s.world)
  | .ask on _ => ∃ c, s.slots.find? on.slot = some (.cursor c) ∧
      ∀ u generation, c.Rooted s.books u generation → o.Of b u generation
  | .access on _ => ∃ q, s.slots.find? on = some (.cursors q) ∧ o.Of b q.unit q.generation
  | .clone on => ∃ x, s.slots.find? on = some x ∧
      ∀ u generation, x.Of s.books u generation → o.Of b u generation
  | _ => ∀ u generation, o.Of b u generation

namespace Command.Yields

variable {s : Session σ} {b later : Books} {o : Object} {c : Command}

theorem mono (grown : b.Extends later) (yields : c.Yields s b o) : c.Yields s later o := by
  unfold Yields at yields ⊢
  split at yields
  · exact yields.imp fun u => And.imp_right (·.mono grown)
  · exact yields.imp fun x => And.imp_right fun of u generation rooted => (of u generation rooted).mono grown
  · exact yields.imp fun q => And.imp_right (·.mono grown)
  · exact yields.imp fun x => And.imp_right fun of u generation here => (of u generation here).mono grown
  · exact fun u generation => (yields u generation).mono grown

theorem sound (yields : c.Yields s b o) (sound : s.Sound) : o.Sound b := by
  unfold Yields at yields
  split at yields
  · obtain ⟨u, -, of⟩ := yields
    exact ⟨u, _, of⟩
  · obtain ⟨x, present, of⟩ := yields
    obtain ⟨u, generation, rooted⟩ := sound.objects _ _ present
    exact ⟨u, generation, of u generation rooted⟩
  · obtain ⟨q, -, of⟩ := yields
    exact ⟨q.unit, q.generation, of⟩
  · obtain ⟨x, present, of⟩ := yields
    obtain ⟨u, generation, here⟩ := sound.objects _ x present
    exact ⟨u, generation, of u generation here⟩
  · exact ⟨⟨0⟩, 0, yields _ _⟩

end Command.Yields

/-- Loading an engine enters nothing. -/
def Silent (load : Loading σ Unit) : Prop := ∀ w, (load.run w).2.books = w.books

theorem silent_pure : Silent (pure () : Loading σ Unit) := fun _ => rfl

/-- Loading a library finds it and asks for its version, which are no calls of a graph. -/
theorem Clang.silent_load {τ : Type} (L : Clang.Library τ) : Silent (Clang.load L) := by
  intro w
  have connected : Ensures (connect L) w fun _ after => after.books = w.books := by
    unfold connect
    rw [Ensures.bind_iff, Ensures.get_iff]
    dsimp only
    split
    · exact rfl
    · rw [Ensures.bind_iff, Ensures.perform_iff]
      dsimp only
      split <;> exact rfl
  have checked (v : World (Linked τ)) : Ensures (checkVersion L) v fun _ after => after.books = v.books := by
    unfold checkVersion
    rw [Ensures.bind_iff, Ensures.perform_iff]
    dsimp only
    split
    · exact rfl
    · split <;> exact rfl
  exact Ensures.bind connected (fun _ _ same => same) fun _ v same =>
    (checked v).mono fun _ _ later => later.trans same

/-- A command that works on a graph. The null string is read outside of any graph. -/
def Command.OnGraph : Command → Prop
  | .readNullString _ => False
  | _ => True

/-! ## Jobs -/

/-- What has been entered by work in a session. -/
structure Job.Entered (s : Session σ) (made : Multiset Owner) (after : Session σ) : Prop where
  entered : Books.Course (s.books, s.owners) (after.books, made + after.owners)
  sound : after.Sound
  continues : s.Continues after

/-- Work in a session keeps the owners in the slots in the books, and leaves besides the owners in its
result. -/
def Job.Enters (work : Job σ α) (s : Session σ) (owners : α → Multiset Owner) (good : Books → α → Prop) :
    Prop :=
  Ensures work s fun result after => match result with
    | .ok a => Entered s (owners a) after ∧ good after.books a
    | .error _ => Entered s 0 after

namespace Job

variable {s : Session σ}

private theorem Entered.refl (sound : s.Sound) : Entered s 0 s := ⟨by rw [zero_add], sound, .refl s⟩

/-- Work that leaves the slots alone. -/
theorem Entered.world (sound : s.Sound) {w : World σ} {made : Multiset Owner}
    (course : Books.Course (s.books, s.owners) (w.books, made + s.owners)) :
    Entered s made { s with world := w } where
  entered := course
  sound := ⟨sound.ordered, fun slot o present => (sound.objects slot o present).mono (.course course)⟩
  continues := .refl s

/-- Work that leaves the slots alone and makes nothing. -/
theorem Entered.world_same (sound : s.Sound) {w : World σ}
    (course : Books.Course (s.books, s.owners) (w.books, s.owners)) : Entered s 0 { s with world := w } :=
  .world sound (by rwa [zero_add])

private theorem Entered.trans {middle after : Session σ} {made : Multiset Owner} (first : Entered s 0 middle)
    (second : Entered middle made after) : Entered s made after := by
  refine ⟨?_, second.sound, first.continues.trans second.continues⟩
  have reached := first.entered
  rw [zero_add] at reached
  exact reached.trans second.entered

theorem act_iff {work : Action σ α} {post : Except Fault α → Session σ → Prop} :
    Ensures (act work) s post ↔ post (.ok (work s.world).1) { s with world := (work s.world).2 } := Iff.rfl

theorem attempt_iff {work : Attempt σ α} {post : Except Fault α → Session σ → Prop} :
    Ensures (attempt work) s post ↔ Ensures work s.world fun result w =>
      post (result.mapError .failed) { s with world := w } := Iff.rfl

theorem load_iff {loading : Loading σ Unit} {post : Except Fault Unit → Session σ → Prop} :
    Ensures (Job.load loading) s post ↔ Ensures loading s.world fun result w =>
      post (result.mapError LoadFault.fault) { s with world := w } := Iff.rfl

theorem held_iff {slot : String} {pick : Object → Option α} {post : Except Fault α → Session σ → Prop} :
    Ensures (held slot pick) s post ↔ match s.slots.find? slot >>= pick with
      | some a => post (.ok a) s
      | none => post (.error (.misused slot)) s := by
  unfold held
  rw [Ensures.bind_iff, Ensures.get_iff]
  simp only
  cases s.slots.find? slot >>= pick <;> rfl

/-- Work on what a slot holds. -/
theorem held_enters {β : Type} {slot : String} {pick : Object → Option α} {next : α → Job σ β}
    {owners : β → Multiset Owner} {good : Books → β → Prop} (sound : s.Sound)
    (goesOn : ∀ a o, s.slots.find? slot = some o → pick o = some a → Enters (next a) s owners good) :
    Enters (held slot pick >>= next) s owners good := by
  rw [Enters, Ensures.bind_iff, held_iff]
  cases picked : s.slots.find? slot >>= pick with
  | none => exact .refl sound
  | some a =>
    obtain ⟨o, present, picked⟩ := Option.bind_eq_some_iff.mp picked
    exact goesOn a o present picked

section Held

variable {β : Type} {slot : String} {owners : β → Multiset Owner} {good : Books → β → Prop}

private theorem index_enters {next : Index → Job σ β} (sound : s.Sound)
    (goesOn : ∀ i, .index i ∈ s.owners → Enters (next i) s owners good) :
    Enters (held slot Object.index? >>= next) s owners good := by
  apply held_enters sound
  intro i o present picked
  obtain rfl := Object.eq_of_index? picked
  exact goesOn i (sound.index present)

private theorem unit_enters {next : TranslationUnit → Job σ β} (sound : s.Sound)
    (goesOn : ∀ u, s.slots.find? slot = some (.unit u) → .unit u ∈ s.owners →
      u.cell < s.world.units.length → Enters (next u) s owners good) :
    Enters (held slot Object.unit? >>= next) s owners good := by
  apply held_enters sound
  intro u o present picked
  obtain rfl := Object.eq_of_unit? picked
  obtain ⟨own, known⟩ := sound.unit present
  exact goesOn u present own known

private theorem file_enters {next : File → Job σ β} (sound : s.Sound)
    (goesOn : ∀ f, .unit f.unit ∈ s.owners → f.Sound s.books → Enters (next f) s owners good) :
    Enters (held slot Object.file? >>= next) s owners good := by
  apply held_enters sound
  intro f o present picked
  obtain rfl := Object.eq_of_file? picked
  obtain ⟨own, file⟩ := sound.file present
  exact goesOn f own file

private theorem cursors_enters {next : CursorSequence → Job σ β} (sound : s.Sound)
    (goesOn : ∀ q, s.slots.find? slot = some (.cursors q) → .unit q.unit ∈ s.owners →
      q.Sound s.books → Enters (next q) s owners good) :
    Enters (held slot Object.cursors? >>= next) s owners good := by
  apply held_enters sound
  intro q o present picked
  obtain rfl := Object.eq_of_cursors? picked
  obtain ⟨own, sequence⟩ := sound.cursors present
  exact goesOn q present own sequence

end Held

/-- Work after an engine was loaded, which enters nothing. -/
theorem loaded_enters {β : Type} {load : Loading σ Unit} (silent : Silent load)
    {next : Unit → Job σ β} {owners : β → Multiset Owner} {good : Books → β → Prop} (sound : s.Sound)
    (goesOn : ∀ s : Session σ, s.Sound → Enters (next ()) s owners good) :
    Enters (Job.load load >>= next) s owners good := by
  have loaded : Entered s 0 { s with world := (load.run s.world).2 } := .world_same sound (by rw [silent s.world])
  have ran : Ensures (Job.load load) s fun _ after => after = { s with world := (load.run s.world).2 } := rfl
  apply Ensures.bind ran (fun _ _ same => same ▸ loaded)
  intro a middle same
  subst same
  apply (goesOn _ loaded.sound).mono
  rintro (e | a) after entered
  · exact loaded.trans entered
  · exact entered.imp_left loaded.trans

/-- Asking a cursor is work on what the slot holds, and what has become of it is put back. -/
theorem inspect_iff {ref : CursorRef} {work : Inspect σ α} {post : Except Fault α → Session σ → Prop} :
    Ensures (inspect E ref work) s post ↔ match s.slots.find? ref.slot >>= Object.cursor? with
      | some c => Ensures (Cursor.along E ref.path work) ⟨c, s.world⟩ fun result after =>
        post (result.mapError .failed) ⟨after.world, s.slots.insert ref.slot (.cursor after.cursor)⟩
      | none => post (.error (.misused ref.slot)) s := by
  rw [inspect, Ensures.bind_iff, held_iff]
  cases s.slots.find? ref.slot >>= Object.cursor? <;> exact Iff.rfl

/-- What was entered while a cursor was asked is entered in the session that puts it back. -/
theorem Entered.inspected (sound : s.Sound) {slot : String} {c : Cursor}
    (present : s.slots.find? slot = some (.cursor c)) {u : TranslationUnit} {generation : UInt64}
    {made : Multiset Owner} {after : Focus σ}
    (asked : Inspect.Entered ⟨c, s.world⟩ (s.slots.erase slot).owners u generation made after) :
    Entered s made ⟨after.world, s.slots.insert slot (.cursor after.cursor)⟩ := by
  constructor
  case entered =>
    have split := sound.ordered.owners_erase present
    have whole := sound.ordered.owners_insert slot (.cursor after.cursor)
    simp only [Session.owners, split, whole]
    exact asked.entered
  case sound =>
    refine ⟨sound.ordered.insert _ _, fun other o there => ?_⟩
    rw [SlotMap.find?_insert] at there
    split_ifs at there with here
    · exact ⟨u, generation, Option.some.inj there ▸ asked.rooted⟩
    · exact (sound.objects other o there).mono (.course asked.entered)
  case continues =>
    intro other o there
    rw [SlotMap.find?_insert] at there
    split_ifs at there with here
    · refine ⟨_, here ▸ present, ?_⟩
      obtain ⟨raw, unit, generation⟩ : _ ∧ _ ∧ _ := by simpa [Cursor.place] using asked.kept
      simp [← Option.some.inj there, Object.place, raw, unit, generation]
    · exact ⟨o, there, rfl⟩

/-- Asking a cursor in a slot. What has become of the cursor stays in its slot. -/
theorem inspect_enters {work : Inspect σ α} {owners : α → Multiset Owner}
    {good : Books → TranslationUnit → UInt64 → α → Prop} (enters : Inspect.Enters work owners good)
    (sound : s.Sound) (ref : CursorRef) :
    Enters (inspect E ref work) s owners fun b a => ∃ c, s.slots.find? ref.slot = some (.cursor c) ∧
      ∀ u generation, c.Rooted s.books u generation → good b u generation a := by
  rw [Enters, inspect_iff]
  cases picked : s.slots.find? ref.slot >>= Object.cursor? with
  | none => exact .refl sound
  | some c =>
    obtain ⟨o, present, picked⟩ := Option.bind_eq_some_iff.mp picked
    obtain rfl := Object.eq_of_cursor? picked
    obtain ⟨u, generation, rooted⟩ := sound.objects _ _ present
    apply (Cursor.along_entered enters ref.path ⟨c, s.world⟩ (s.slots.erase ref.slot).owners).mono
    rintro (e | a) after asked
    · exact .inspected sound present (asked u generation rooted)
    · refine ⟨.inspected sound present (asked u generation rooted).1, c, present, fun v other rooted => ?_⟩
      exact (asked v other rooted).2

theorem eq_of_mapError {result : Except Error α} {a : α}
    (same : result.mapError Fault.failed = .ok a) : result = .ok a := by
  cases result <;> cases same
  rfl

/-- A cursor that is looked at is remembered in its slot. -/
theorem peek_follows (ref : CursorRef) :
    Ensures (inspect E ref Inspect.receiver) s fun result after => ∀ d, result = .ok d →
      ∃ c, after.slots = s.slots.insert ref.slot (.cursor c) ∧ c.follow ref.path = some d := by
  rw [inspect_iff]
  cases s.slots.find? ref.slot >>= Object.cursor? with
  | none => nofun
  | some c =>
    apply (Cursor.along_leaves (E := E) Eq (by rintro f d ⟨⟩; rfl) ref.path ⟨c, s.world⟩).mono
    intro result after follows d same
    obtain ⟨_, reached, rfl⟩ := follows d (eq_of_mapError same)
    exact ⟨_, rfl, reached⟩

/-- Looking at a cursor copies nothing. What is seen is rooted, and reached from the cursor that is in its slot
now. -/
theorem peek_entered (sound : s.Sound) (ref : CursorRef) :
    Ensures (inspect E ref Inspect.receiver) s fun result after => match result with
      | .ok d => Entered s 0 after ∧ (∃ u generation, d.Rooted after.books u generation) ∧
        ∃ c, after.slots = s.slots.insert ref.slot (.cursor c) ∧ c.follow ref.path = some d
      | .error _ => Entered s 0 after := by
  have looked : Inspect.Enters (σ := σ) Inspect.receiver (fun _ => 0) fun b u generation c =>
      c.Rooted b u generation := fun f held u generation rooted => ⟨.refl rooted, rooted⟩
  apply ((inspect_enters (E := E) looked sound ref).and (peek_follows ref)).mono
  rintro (e | d) after ⟨entered, follows⟩
  · exact entered
  · obtain ⟨entered, c, present, of⟩ := entered
    obtain ⟨u, generation, rooted⟩ := sound.objects ref.slot _ present
    exact ⟨entered, ⟨u, generation, of u generation rooted⟩, follows d rfl⟩

/-- The unit of a cursor that was looked at is owned. -/
theorem own_of_peek {after : Session σ} (sound : after.Sound) {ref : CursorRef} {c d : Cursor}
    (slots : after.slots = s.slots.insert ref.slot (.cursor c)) (reached : c.follow ref.path = some d)
    {u : TranslationUnit} (here : d.unit = some u) : .unit u ∈ after.owners := by
  have present : after.slots.find? ref.slot = some (.cursor c) := by
    rw [slots, SlotMap.find?_insert, if_pos rfl]
  exact sound.mem_owners present (Cursor.mem_owners_iff.mpr ⟨ref.path, d, u, reached, here, rfl⟩)

/-- It is still owned when another cursor has been looked at. -/
theorem own_of_earlier_peek {middle after : Session σ} (sound : middle.Sound) {ref other : CursorRef}
    {c d e : Cursor} {made : Multiset Owner} (slots : middle.slots = s.slots.insert ref.slot (.cursor c))
    (reached : c.follow ref.path = some d) (later : Entered middle made after)
    (slots' : after.slots = middle.slots.insert other.slot (.cursor e)) {u : TranslationUnit}
    (here : d.unit = some u) : .unit u ∈ after.owners := by
  have present : middle.slots.find? ref.slot = some (.cursor c) := by
    rw [slots, SlotMap.find?_insert, if_pos rfl]
  obtain ⟨v, generation, rooted⟩ := sound.objects ref.slot _ present
  have unit : c.unit = some u := Cursor.Rooted.unit_of_follow rooted reached here
  obtain ⟨x, there, same⟩ : ∃ x : Cursor, after.slots.find? ref.slot = some (.cursor x) ∧ x.unit = some u := by
    rw [slots', SlotMap.find?_insert]
    split_ifs with again
    · refine ⟨e, rfl, ?_⟩
      obtain ⟨old, there, place⟩ := later.continues ref.slot (.cursor e) (by
        rw [slots', SlotMap.find?_insert, if_pos again])
      obtain rfl := Option.some.inj (present.symm.trans there)
      exact (Cursor.mk.inj (Object.cursor.inj place)).2.1.trans unit
    · exact ⟨c, present, unit⟩
  exact later.sound.mem_owners there (Cursor.mem_owners_iff.mpr ⟨[], x, u, rfl, same, rfl⟩)

end Job

namespace Command

variable {s : Session σ}

/-- Work that makes an object. -/
theorem make_enters {work : Attempt σ α} {wrap : α → Object} {made : Books → α → Prop}
    {good : Books → Outcome → Prop} (sound : s.Sound)
    (enters : Enters work s.world s.owners (fun a => (wrap a).owners) made)
    (yields : ∀ b a reply, made b a → good b ⟨reply, some (wrap a)⟩) :
    Job.Enters (do Job.present (wrap (← Job.attempt work))) s Outcome.owners good := by
  rw [Job.Enters, Ensures.bind_iff, Job.attempt_iff]
  apply Ensures.mono enters
  rintro (e | a) w entered
  · exact .world_same sound entered
  · exact ⟨.world sound entered.1, yields _ a _ entered.2⟩

/-- Work that makes nothing. -/
theorem answer_enters {work : Attempt σ α} {good : Books → Outcome → Prop} (reply : α → Reply)
    (sound : s.Sound) (keeps : Keeps work s.world s.owners)
    (empty : ∀ b o, o.made = none → good b o) :
    Job.Enters (do return ⟨reply (← Job.attempt work), none⟩) s Outcome.owners good := by
  rw [Job.Enters, Ensures.bind_iff, Job.attempt_iff]
  apply Ensures.mono keeps
  rintro (e | a) w entered
  · exact .world_same sound entered
  · exact ⟨.world_same sound entered, empty _ _ rfl⟩

/-- When two cursors are compared both are owned, whatever looking for the second has put in the slot of
the first. -/
theorem equal_enters {load : Loading σ Unit} (sound : s.Sound) (a b : CursorRef) :
    Job.Enters ((equal a b).run E load) s Outcome.owners
      fun books o => ∀ x, o.made = some x → (equal a b).Yields s books x := by
  apply Ensures.bind (Job.peek_entered sound a) (fun _ _ entered => entered)
  rintro c middle ⟨entered, ⟨u, generation, rooted⟩, _, kept, reached⟩
  apply Ensures.bind (Job.peek_entered entered.sound b) (fun _ _ later => entered.trans later)
  rintro d after ⟨later, ⟨v, other, second⟩, _, there, follows⟩
  have grown : middle.books.Extends after.books := by
    have course := later.entered
    rw [zero_add] at course
    exact .course course
  have own (x : TranslationUnit) (here : c.unit = some x ∨ d.unit = some x) : .unit x ∈ after.owners := by
    rcases here with here | here
    · exact Job.own_of_earlier_peek entered.sound kept reached later there here
    · exact Job.own_of_peek later.sound there follows here
  have compared := Cursor.equal_course (E := E) (rooted.mono grown) second own
  exact ⟨entered.trans (later.trans (.world_same later.sound compared)), nofun⟩

private theorem drop_enters {load : Loading σ Unit} (sound : s.Sound) (on : String) :
    Job.Enters ((drop on).run E load) s Outcome.owners
      fun books o => ∀ x, o.made = some x → (drop on).Yields s books x := by
  unfold run
  rw [Job.Enters, Ensures.bind_iff, Ensures.get_iff]
  simp only
  cases present : s.slots.find? on with
  | none => exact ⟨.refl sound, nofun⟩
  | some o =>
    have dropped : Books.Course (s.books, o.owners + (s.slots.erase on).owners)
        ((o.drop E s.world).2.books, (s.slots.erase on).owners) := o.drop_course
    have kept {slot : String} {x : Object} (there : (s.slots.erase on).find? slot = some x) :
        s.slots.find? slot = some x := by
      rw [SlotMap.find?_erase] at there
      split_ifs at there
      exact there
    refine ⟨?_, nofun⟩
    constructor
    case entered =>
      change Books.Course (s.books, s.slots.owners) (_, 0 + (s.slots.erase on).owners)
      rw [zero_add, sound.ordered.owners_erase present]
      exact dropped
    case sound =>
      refine ⟨sound.ordered.erase on, fun slot x there => ?_⟩
      exact (sound.objects slot x (kept there)).mono (.course dropped)
    case continues => exact fun slot x there => ⟨x, kept there, rfl⟩

/-- Every command of a graph but a reparse enters a course in the books. -/
theorem run_enters {load : Loading σ Unit} (silent : Silent load)
    (sound : s.Sound) (c : Command) (graph : c.OnGraph)
    (renews : ∀ on unsaved options, c ≠ .reparse on unsaved options) :
    Job.Enters (c.run E load) s Outcome.owners fun b o => ∀ x, o.made = some x → c.Yields s b x := by
  have made {b : Books} {x : Object} (of : ∀ u generation, x.Of b u generation)
      (y : Object) (same : some x = some y) (u : TranslationUnit) (generation : UInt64) :
      y.Of b u generation := by
    obtain rfl := Option.some.inj same
    exact of u generation
  cases c with
  | createIndex options =>
    apply Job.loaded_enters silent sound
    intro s sound
    exact make_enters sound (Index.create_enters options) fun b i reply _ => made fun _ _ => trivial
  | parse on path args unsaved options =>
    apply Job.index_enters sound
    intro i own
    exact make_enters sound (Index.parse_enters own path args unsaved options)
      fun b u reply known => made fun _ _ => known
  | read on path =>
    apply Job.index_enters sound
    intro i own
    exact make_enters sound (Index.read_enters own path)
      fun b u reply known => made fun _ _ => known
  | ofSource path args unsaved options =>
    apply Job.loaded_enters silent sound
    intro s sound
    exact make_enters sound
      (Index.withPrivate_enters fun i w held own => Index.parse_enters own path args unsaved options)
      fun b u reply known => made fun _ _ => known
  | ofAstFile path =>
    apply Job.loaded_enters silent sound
    intro s sound
    exact make_enters sound (Index.withPrivate_enters fun i w held own => Index.read_enters own path)
      fun b u reply known => made fun _ _ => known
  | unitIndex on =>
    apply Job.unit_enters sound
    intro u _ own _
    exact ⟨.world sound (Index.clone_course (.inr ⟨u, own, rfl⟩)), made fun _ _ => trivial⟩
  | unitSpelling on =>
    apply Job.unit_enters sound
    intro u _ own _
    exact answer_enters _ sound (TranslationUnit.spelling_keeps own) fun b o none => by simp [none]
  | generation on =>
    apply Job.held_enters sound
    intro u o present picked
    exact ⟨.refl sound, nofun⟩
  | root on =>
    apply Job.unit_enters sound
    intro u present own known
    apply make_enters sound (TranslationUnit.root_enters own known)
    intro b c reply rooted x same
    obtain rfl := Option.some.inj same
    exact ⟨u, present, rooted⟩
  | getFile on path =>
    apply Job.unit_enters sound
    intro u present own known
    exact make_enters sound (TranslationUnit.getFile_enters own known path)
      fun b f reply sound => made fun _ _ => sound
  | reparse on unsaved options => exact absurd rfl (renews on unsaved options)
  | save on path =>
    apply Job.unit_enters sound
    intro u _ own _
    exact answer_enters _ sound (TranslationUnit.save_keeps own path) fun b o none => by simp [none]
  | fileName on =>
    apply Job.file_enters sound
    intro f own file
    exact answer_enters _ sound (File.name_keeps own file) fun b o none => by simp [none]
  | fileTime on =>
    apply Job.file_enters sound
    intro f own file
    exact ⟨.world_same sound (File.time_course own file), nofun⟩
  | fileDisplay on =>
    apply Job.file_enters sound
    intro f own file
    exact ⟨.world_same sound (File.display_course own file), nofun⟩
  | fileUnit on =>
    apply Job.file_enters sound
    intro f own file
    have cloned := TranslationUnit.clone_course (w := s.world) own
    exact ⟨.world sound cloned, made fun _ _ => file.known.trans_le (Books.Extends.course cloned).units_length⟩
  | nullCursor => exact ⟨.refl sound, made fun _ _ => .absent⟩
  | ask on question =>
    apply (Job.inspect_enters question.ask_enters sound on).mono
    rintro (e | o) after entered
    · exact entered
    · obtain ⟨entered, c, present, of⟩ := entered
      exact ⟨entered, fun x same => ⟨c, present, fun u generation rooted => of u generation rooted x same⟩⟩
  | equal a b => exact equal_enters sound a b
  | access on element =>
    apply Job.cursors_enters sound
    intro q present own sequence
    apply make_enters sound (CursorSequence.reach_enters own sequence element)
    intro b c reply rooted x same
    obtain rfl := Option.some.inj same
    exact ⟨q, present, rooted⟩
  | each on side =>
    apply Job.cursors_enters sound
    intro q present own sequence
    have drained := CursorSequence.drain_produced (E := E) own sequence side (q.toSequence E).iter
    exact ⟨.world_same sound (drained.entered.trans (CursorSequence.dropDrained_course _)), nofun⟩
  | collect on =>
    apply Job.cursors_enters sound
    intro q present own sequence
    rw [Job.Enters, Ensures.bind_iff, Job.attempt_iff]
    apply Ensures.mono (CursorSequence.toList_enters own sequence)
    rintro (e | all) w entered
    · exact .world_same sound entered
    · exact ⟨.world_same sound (entered.1.trans (CursorSequence.dropAll_course all)), nofun⟩
  | clone on =>
    apply Job.held_enters sound
    intro copy o present copies
    obtain ⟨course, of⟩ := Object.clone_course copies (sound.objects on o present)
      fun owner own => sound.mem_owners present own
    refine ⟨.world sound course, fun x same => ?_⟩
    obtain rfl := Option.some.inj same
    exact ⟨o, present, of⟩
  | drop on => exact drop_enters sound on
  | same a b =>
    apply Job.held_enters sound
    intro first o _ _
    exact Job.held_enters sound fun second o _ _ => ⟨.refl sound, nofun⟩
  | describe on =>
    apply Job.held_enters sound
    intro o' o present picked
    obtain rfl := Option.some.inj picked
    refine ⟨.world_same sound ?_, nofun⟩
    cases o with
    | index | unit | cursor | cursors => exact .refl
    | file f =>
      obtain ⟨own, file⟩ := sound.file present
      exact File.describe_course own file
  | readNullString on => exact graph.elim

end Command

end HandleGraph
