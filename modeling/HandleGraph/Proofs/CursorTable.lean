import HandleGraph.Proofs.Cells
import HandleGraph.Proofs.Lockstep
import HandleGraph.Proofs.Uncached

/-! # Answers by table

An engine answers about cursors by a table when what it answers depends on the query and the cursor only.
Texts are compared, not the strings that the engine hands out for them. Then accessors without memory have
tabled results, and a memo is faithful when it holds such results.
-/

namespace HandleGraph

variable {σ α β : Type}

structure CursorTable where
  answer : (q : Query) → q.Answer
  text : CursorText → CursorHandle → Option String
  walk : CursorHandle → Walk

/-- Queries about cursors that are answered by no string. -/
def Query.onCursor : Query → Bool
  | .equalCursors .. | .hash _ | .link .. | .test .. | .argumentCount _ | .argument .. | .bitWidth _ => true
  | _ => false

instance (q : Query) : DecidableEq q.Answer := by cases q <;> exact inferInstance

namespace CursorTable

/-- What is read of a string next is the text. -/
def ReadsNext (s : StringHandle) (text : Option String) : List Call → Prop
  | .asked (.readString read) found :: _ => read = s → found = text
  | _ => True

/-- An answer is as in the table. For a text that is what is read next of the string that was answered. -/
def GrantsAnswer (T : CursorTable) : (q : Query) → q.Answer → List Call → Prop
  | .text t c, s, later => if s.isNull then T.text t c = none else ReadsNext s (T.text t c) later
  | q, a, _ => q.onCursor = true → a = T.answer q

/-- All answers about cursors are as in the table. -/
def Grants (T : CursorTable) : List Call → Prop
  | [] => True
  | .asked q a :: later => T.GrantsAnswer q a later ∧ T.Grants later
  | .walked c walk :: later => walk = T.walk c ∧ T.Grants later

instance (s : StringHandle) (text : Option String) (later : List Call) : Decidable (ReadsNext s text later) := by
  unfold ReadsNext
  split <;> exact inferInstance

instance (T : CursorTable) (q : Query) (a : q.Answer) (later : List Call) : Decidable (T.GrantsAnswer q a later) := by
  unfold GrantsAnswer
  split <;> exact inferInstance

instance decidableGrants (T : CursorTable) : (calls : List Call) → Decidable (T.Grants calls)
  | [] => .isTrue trivial
  | .asked _ _ :: later => @instDecidableAnd _ _ inferInstance (T.decidableGrants later)
  | .walked _ _ :: later => @instDecidableAnd _ _ inferInstance (T.decidableGrants later)

variable {T : CursorTable}

private theorem ReadsNext.of_isPrefix {s : StringHandle} {text : Option String} {earlier later : List Call}
    (begins : earlier <+: later) (reads : ReadsNext s text later) : ReadsNext s text earlier := by
  obtain ⟨rest, rfl⟩ := begins
  cases earlier with
  | nil => trivial
  | cons call more =>
    cases call with
    | walked => trivial
    | asked q a => cases q <;> exact reads

private theorem GrantsAnswer.of_isPrefix {q : Query} {a : q.Answer} {earlier later : List Call}
    (begins : earlier <+: later)
    (granted : T.GrantsAnswer q a later) : T.GrantsAnswer q a earlier := by
  cases q with
  | text t c =>
    rw [GrantsAnswer] at granted ⊢
    split_ifs at granted ⊢
    · exact granted
    · exact granted.of_isPrefix begins
  | _ => exact granted

/-- What is granted of a history is granted of its beginning. -/
theorem Grants.of_isPrefix {earlier later : List Call} (begins : earlier <+: later) (granted : T.Grants later) :
    T.Grants earlier := by
  induction earlier generalizing later with
  | nil => trivial
  | cons call rest ih =>
    obtain ⟨more, rfl⟩ := begins
    have within : rest <+: rest ++ more := List.prefix_append ..
    cases call with
    | asked q a => exact ⟨granted.1.of_isPrefix within, ih within granted.2⟩
    | walked c walk => exact ⟨granted.1, ih within granted.2⟩

private theorem Grants.of_append {earlier later : List Call} (granted : T.Grants (earlier ++ later)) :
    T.Grants later := by
  induction earlier with
  | nil => exact granted
  | cons call rest ih => cases call <;> exact ih granted.2

/-- A call that was granted has its answer from the table. -/
theorem Grants.answer {calls : List Call} {q : Query} {a : q.Answer} (granted : T.Grants (calls ++ [.asked q a]))
    (about : q.onCursor = true) : a = T.answer q := by
  have here := granted.of_append.1
  cases q <;> first | exact here rfl | cases about

theorem Grants.walk {calls : List Call} {c : CursorHandle} {walk : Walk}
    (granted : T.Grants (calls ++ [.walked c walk])) : walk = T.walk c := granted.of_append.1

/-! ## Results by table -/

def required (operation : String) (text : Option String) : Except Error String :=
  text.elim (.error (.nativeQueryFailed operation)) .ok

/-- The cursor behind a link, when the engine has answered where the link leads. -/
def behind (l : Link) (u : TranslationUnit) (generation : UInt64) (raw : CursorHandle) : Except Error Cursor :=
  if raw.isNull then if l.isOptional then .ok .null else .error (.nativeQueryFailed l.operation)
  else .ok ⟨raw, some u, generation, .empty⟩

/-- What a text of a cursor comes to that has to have one. -/
def queryText (T : CursorTable) (t : CursorText) (c : Cursor) : Except Error String := do
  let _ ← c.live t.operation
  required t.operation (T.text t c.raw)

def queryHash (T : CursorTable) (c : Cursor) : Except Error UInt32 := do
  let _ ← c.live "hash"
  return T.answer (.hash c.raw)

def queryLink (T : CursorTable) (l : Link) (c : Cursor) : Except Error Cursor := do
  let u ← c.live l.operation
  behind l u c.generation (T.answer (.link l c.raw))

/-- The cursor behind a link remembers nothing. -/
theorem blank_of_queryLink {l : Link} {c d : Cursor} (found : T.queryLink l c = .ok d) : d.memo = .empty := by
  unfold queryLink at found
  cases alive : c.live l.operation with
  | error e => rw [alive] at found; cases found
  | ok u =>
    rw [alive] at found
    change behind l u c.generation (T.answer (.link l c.raw)) = .ok d at found
    unfold behind at found
    split_ifs at found <;> cases found <;> rfl

/-- What a memoised accessor comes to. -/
def reply (T : CursorTable) (c : Cursor) : Cell → Except Error Content
  | .spelling => .text <$> T.queryText .spelling c
  | .displayName => .text <$> T.queryText .displayName c
  | .hash => .word <$> T.queryHash c
  | .link l => (fun d => .cursor d.place) <$> T.queryLink l c

end CursorTable

variable {T : CursorTable} {E : Engine σ}

/-- The text of a cursor is what the table says. -/
theorem copy_tabled (t : CursorText) (raw : CursorHandle) (w : World σ)
    (granted : T.Grants ((TextSource.cursor t raw).copy E w).2.calls) :
    ((TextSource.cursor t raw).copy E w).1 = T.text t raw := by
  change T.Grants (takeOptionalString E (ask E (.text t raw) w).1 (ask E (.text t raw) w).2).2.calls at granted
  change (takeOptionalString E (ask E (.text t raw) w).1 (ask E (.text t raw) w).2).1 = _
  have logged : (ask E (.text t raw) w).2.calls = w.calls ++ [.asked (.text t raw) (ask E (.text t raw) w).1] := rfl
  generalize (ask E (.text t raw) w).1 = s, (ask E (.text t raw) w).2 = asked at *
  unfold takeOptionalString at granted ⊢
  split_ifs at granted ⊢ with null
  · change T.Grants asked.calls at granted
    rw [logged] at granted
    have here := granted.of_append.1
    rw [CursorTable.GrantsAnswer, if_pos null] at here
    exact here.symm
  · change T.Grants ((asked.calls ++ [_]) ++ [_]) at granted
    rw [logged, List.append_assoc, List.append_assoc] at granted
    have here := granted.of_append.1
    rw [CursorTable.GrantsAnswer, if_neg null] at here
    exact here rfl

/-- When the engine answers by the table, the work has the tabled result. -/
def Tabled (T : CursorTable) (work : Attempt σ α) (result : Except Error α) : Prop :=
  ∀ w, Ensures work w fun found after => T.Grants after.calls → found = result

namespace Cursor

theorem queryText_tabled (t : CursorText) (c : Cursor) : Tabled T (c.queryText E t) (T.queryText t c) := by
  intro w
  simp only [queryText, CursorTable.queryText, takeString, Ensures.bind_iff, Ensures.settle_iff, Ensures.perform_iff]
  cases c.live t.operation with
  | error e => exact fun _ => rfl
  | ok u =>
    have text := copy_tabled (T := T) (E := E) t c.raw w
    change T.Grants (takeOptionalString E (ask E (.text t c.raw) w).1 (ask E (.text t c.raw) w).2).2.calls →
      (takeOptionalString E (ask E (.text t c.raw) w).1 (ask E (.text t c.raw) w).2).1 = _ at text
    change Ensures _ _ fun found (after : World σ) => T.Grants after.calls →
      found = CursorTable.required t.operation (T.text t c.raw)
    cases found : (takeOptionalString E (ask E (.text t c.raw) w).1 (ask E (.text t c.raw) w).2).1 with
    | none => exact fun granted => by rw [← text granted, found]; rfl
    | some read => exact fun granted => by rw [← text granted, found]; rfl

theorem queryHash_tabled (c : Cursor) : Tabled T (c.queryHash E) (T.queryHash c) := by
  intro w
  simp only [queryHash, CursorTable.queryHash, Ensures.bind_iff, Ensures.settle_iff, Ensures.perform_iff]
  cases c.live "hash" with
  | error e => exact fun _ => rfl
  | ok u => exact fun granted => congrArg Except.ok (granted.answer rfl)

theorem queryLink_tabled (l : Link) (c : Cursor) : Tabled T (c.queryLink E l) (T.queryLink l c) := by
  intro w
  simp only [queryLink, CursorTable.queryLink, Ensures.bind_iff, Ensures.settle_iff, Ensures.perform_iff]
  cases c.live l.operation with
  | error e => exact fun _ => rfl
  | ok u =>
    have answered (granted : T.Grants (ask E (.link l c.raw) w).2.calls) :
        (ask E (.link l c.raw) w).1 = T.answer (.link l c.raw) := granted.answer rfl
    change Ensures _ _ fun found (after : World σ) =>
      T.Grants after.calls → found = CursorTable.behind l u c.generation (T.answer (.link l c.raw))
    split_ifs with null optional <;> intro granted <;> rw [← answered granted, CursorTable.behind]
    · rw [if_pos null, if_pos optional]
      rfl
    · rw [if_pos null, if_neg optional]
      rfl
    · rw [if_neg null]
      rfl

end Cursor

/-! ## Faithful memories -/

/-- A cursor that remembers what the table says, and so do the cursors that it remembers. -/
inductive Cursor.Faithful (T : CursorTable) : Cursor → Prop
  | intro {c : Cursor} (own : ∀ cell v, c.memo.content cell = some v → T.reply c cell = .ok v)
      (links : ∀ l d, c.memo.link l = some d → Faithful T d) : Faithful T c

namespace Cursor.Faithful

variable {c d : Cursor}

/-- A filled cell has in it what the table says. -/
theorem own (faithful : c.Faithful T) {cell : Cell} {v : Content} (filled : c.memo.content cell = some v) :
    T.reply c cell = .ok v := by
  cases faithful with
  | intro own _ => exact own cell v filled

/-- Cursors that are remembered are as faithful as the one that remembers them. -/
theorem link (faithful : c.Faithful T) {l : Link} (remembered : c.memo.link l = some d) : d.Faithful T := by
  cases faithful with
  | intro _ links => exact links l d remembered

/-- A cursor without memory has nothing to be wrong about. -/
theorem of_blank (blank : c.memo = .empty) : c.Faithful T := by
  refine .intro (fun cell v filled => ?_) fun l d remembered => ?_
  · rw [blank, Memo.content_empty] at filled
    cases filled
  · rw [blank, Memo.link_empty] at remembered
    cases remembered

/-- An answer by the table may be remembered. -/
theorem remember {cell : Cell} {wrap : α → Content} {recollect : Memo Cursor → Option α}
    {keep : α → Memo Cursor → Memo Cursor} {work : Cursor → Attempt σ α}
    (backs : cell.Backs wrap recollect keep work) (faithful : c.Faithful T) (free : recollect c.memo = none) {a : α}
    (tabled : T.reply c cell = .ok (wrap a)) {w : World σ} (found : ((work c).run w).1 = .ok a) :
    Cursor.Faithful T { c with memo := keep a c.memo } := by
  refine .intro (fun other v filled => ?_) fun l d remembered => ?_
  · by_cases here : other = cell
    · rw [here, backs.writes] at filled
      rw [← Option.some.inj filled, here]
      exact tabled
    · rw [backs.others a _ other here] at filled
      exact faithful.own filled
  · cases before : c.memo.link l with
    | some x =>
      rw [backs.links a _ l x free before] at remembered
      exact Option.some.inj remembered ▸ faithful.link before
    | none => exact .of_blank (backs.blank c w a found c.memo l d before remembered)

/-- A remembered cursor may have come to remember more. -/
theorem within (faithful : c.Faithful T) {l : Link} {e : Cursor} (remembered : c.memo.link l = some d)
    (place : e.place = d.place) (later : e.Faithful T) :
    Cursor.Faithful T { c with memo := c.memo.setLink l e } := by
  refine .intro (fun cell v filled => ?_) fun other x there => ?_
  · rw [Memo.content_setLink] at filled
    split_ifs at filled with linked
    · subst linked
      have known : c.memo.content (.link l) = some v := by
        rw [← filled, place, Memo.content, remembered]
        rfl
      exact faithful.own known
    · exact faithful.own filled
  · rw [Memo.link_setLink] at there
    split_ifs at there
    · exact Option.some.inj there ▸ later
    · exact faithful.link there

end Cursor.Faithful

end HandleGraph
