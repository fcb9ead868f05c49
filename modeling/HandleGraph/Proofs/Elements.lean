import HandleGraph.Proofs.Inquiries

/-! # Elements of sequences in use

An access to an element comes down to a position. Where it minds the length it turns away what lies past the
end, and it leaves everything else to the producer. What an access finds depends on the sequence alone, and a
sequence stays what it is while its slot keeps it, whatever is requested in between.

A remembered cursor is asked in its place: work that leaves it as it is leaves every slot as it is.
-/

namespace HandleGraph

variable {σ α : Type} {E : Engine σ} {load : Loading σ Unit}

/-- An element of a sequence, as a cursor of its own. -/
def TranslationUnit.element (u : TranslationUnit) (generation : UInt64) (raw : CursorHandle) : Cursor :=
  ⟨raw, some u, generation, .empty⟩

/-! ## Positions -/

def Access.position (length : Nat) : Access → Nat
  | .get index | .getUnchecked index => index
  | .front => 0
  | .back => length - 1

def Access.isChecked : Access → Bool
  | .getUnchecked _ => false
  | .get _ | .front | .back => true

/-- An access past the end is turned away if it minds the length. Every other one asks the producer. -/
theorem Access.reach_eq (q : CursorSequence) (a : Access) :
    a.reach E q =
      if a.isChecked ∧ q.length ≤ a.position q.length then
        throw (.indexOutOfRange (a.position q.length) q.length)
      else q.produce E (a.position q.length) := by
  have checked (index : Nat) : ExceptT.mk ((q.toSequence E).get index) =
      if q.length ≤ index then throw (.indexOutOfRange index q.length) else q.produce E index := by
    have length : (q.toSequence E).length = q.length := rfl
    unfold Sequence.get
    rw [length]
    by_cases inside : index < q.length
    · rw [if_pos inside, if_neg (by omega)]
      rfl
    · rw [if_neg inside, if_pos (by omega)]
      rfl
  cases a with
  | get index => simpa [isChecked, position, reach] using checked index
  | getUnchecked index => simp only [isChecked, Bool.false_eq_true, false_and, ↓reduceIte]; rfl
  | front => simpa [isChecked, position, reach, Sequence.front] using checked 0
  | back =>
    have length : (q.toSequence E).length = q.length := rfl
    unfold reach Sequence.back
    rw [length]
    cases size : q.length with
    | zero => simp only [isChecked, position, Nat.le_refl, and_self, ↓reduceIte]; rfl
    | succ n => simpa [isChecked, position, size] using checked n

/-! ## Sequences in slots -/

/-- No command moves an object in a slot, but for the one that drops it. -/
theorem Command.run_places (c : Command) (s : Session σ) :
    Ensures (c.run E load) s fun _ after => ∀ slot, c ≠ .drop slot →
      (after.slots.find? slot).map Object.place = (s.slots.find? slot).map Object.place := by
  cases other : c.asksOrDrops with
  | false => exact (leavesSlots other s).mono fun _ _ left slot _ => by rw [left.1]
  | true =>
    cases c with
    | ask on question =>
      exact (Job.inspect_restores question.ask_restores question.ask_fills on s).mono
        fun _ _ restored slot _ => restored.1.places slot
    | equal a b => exact (equal_restores a b s).mono fun _ _ restored slot _ => restored.places slot
    | drop on =>
      unfold run
      rw [Ensures.bind_iff, Ensures.get_iff]
      simp only
      cases s.slots.find? on with
      | none => exact fun slot _ => rfl
      | some o =>
        intro slot apart
        change ((s.slots.erase on).find? slot).map _ = _
        rw [SlotMap.find?_erase, if_neg]
        rintro rfl
        exact apart rfl
    | _ => cases other

namespace Session

variable {s later : Session σ}

private theorem step_places {r : Request} {slot : String} (stays : ¬s.Vacates E load r slot) :
    ((step E load r s).2.slots.find? slot).map Object.place = (s.slots.find? slot).map Object.place := by
  have places : Ensures (r.command.run E load) s _ := r.command.run_places s
  rw [step_slot stays]
  exact places slot fun same => stays (.inl same)

private theorem Meanwhile.places {slot : String} (meanwhile : Meanwhile E load slot s later) :
    (later.slots.find? slot).map Object.place = (s.slots.find? slot).map Object.place := by
  induction meanwhile with
  | nothing => rfl
  | request _ r stays ih => exact (step_places stays).trans ih
  | change _ engine ih => exact ih

/-- A sequence stays what it is while its slot keeps it. -/
theorem Meanwhile.cursors {slot : String} {q : CursorSequence} (meanwhile : Meanwhile E load slot s later)
    (held : s.slots.find? slot = some (.cursors q)) : later.slots.find? slot = some (.cursors q) := by
  have placed := meanwhile.places
  rw [held, Option.map_some, Option.map_eq_some_iff] at placed
  obtain ⟨o, present, same⟩ := placed
  cases o with
  | cursors p => rwa [← Object.cursors.inj same]
  | _ => cases same

/-- A slot holds a sequence, and an access in the session is what it is in the world. -/
structure Shows (E : Engine σ) (load : Loading σ Unit) (s : Session σ) (slot : String) (q : CursorSequence) :
    Prop where
  held : s.slots.find? slot = some (.cursors q)
  accessed : ∀ (a : Access) result w, (a.reach E q).run s.world = (result, w) →
    ((Command.access slot a).run E load).run s =
      ((result.map fun c => .of (.cursor c) w).mapError .failed, { s with world := w })

/-- A sequence in a slot gives its elements there as it does by itself. -/
theorem shows {slot : String} {q : CursorSequence} (held : s.slots.find? slot = some (.cursors q)) :
    s.Shows E load slot q where
  held := held
  accessed a result w reached := by
    refine (?_ : Ensures ((Command.access slot a).run E load) s fun came after => (came, after) = _)
    unfold Command.run
    rw [Ensures.bind_iff, Job.held_iff, held]
    change Ensures (Job.attempt (a.reach E q) >>= fun c => Job.present (.cursor c)) s _
    rw [Ensures.bind_iff, Job.attempt_iff, Ensures, reached]
    cases result <;> rfl

end Session

/-! ## Remembered cursors -/

theorem Cursor.unit_of_live {c : Cursor} {operation : String} {u : TranslationUnit}
    (alive : c.live operation = .ok u) : c.unit = some u := by
  rw [live_eq] at alive
  split at alive
  next here => rw [here, Except.ok.inj alive]
  next => cases alive

/-- What a question to a remembered cursor has made is kept in the slot that is meant for it. -/
theorem Session.kept_of_made {s : Session σ} {ref : CursorRef} {question : Question} {c : Cursor} {o : Object}
    (found : s.cursor? ref = some c)
    (made : Ensures (question.ask E) ⟨c, s.world⟩ fun result after =>
      after.cursor = c ∧ ∃ reply, result = .ok ⟨reply, some o⟩) (slot : String) :
    (step E load ⟨.ask ref question, some slot⟩ s).2.slots.find? slot = some o := by
  have asked : Ensures ((Command.ask ref question).run E load) s fun result _ =>
      ∃ reply, result = .ok ⟨reply, some o⟩ := by
    apply (Job.inspect_still (fun came _ => ∃ reply, came = .ok ⟨reply, some o⟩) found made).mono
    rintro _ _ ⟨-, _, rfl, reply, rfl⟩
    exact ⟨reply, rfl⟩
  obtain ⟨reply, same⟩ := asked
  rcases ran : ((Command.ask ref question).run E load).run s with ⟨result, middle⟩
  rw [ran] at same
  obtain rfl : result = .ok ⟨reply, some o⟩ := same
  rw [step_ok ran, Option.elim_some, keep_slots]
  exact (SlotMap.find?_insert ..).trans (if_pos rfl)

end HandleGraph
