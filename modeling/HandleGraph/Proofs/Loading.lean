import HandleGraph.Clang.Binding
import HandleGraph.Proofs.Books
import HandleGraph.Proofs.Execution
import HandleGraph.Proofs.VersionText

/-! # Loading a library

A library is found once and judged by its version each time. A version comes to one of three things: it is let in,
it is refused, or the program stops because its release is past the last 32-bit word.
-/

namespace HandleGraph.Clang

variable {τ : Type} {L : Library τ}

private theorem consult_apply {α : Type} (work : StateM (Linked τ) α) (w : World (Linked τ)) :
    consult work w = ((work.run w.engine).1, { w with engine := (work.run w.engine).2 }) := rfl

/-! ## Finding it -/

section Finding

variable {w found : World (Linked τ)} {library : τ}

def located (w : World (Linked τ)) (library : τ) : World (Linked τ) :=
  { w with engine := ⟨library, w.engine.calls, true⟩, events := w.events ++ [.libraryLoaded] }

/-- A library that was found before is not looked for again. -/
theorem connect_run (L : Library τ) (w : World (Linked τ)) : (connect L).run w =
    if w.engine.loaded then (.ok (), w)
    else match L.find w.engine.library with
      | (.ok (), library) => (.ok (), located w library)
      | (.error reason, library) => (.error (.failed (.engineUnavailable reason)),
          { w with engine := ⟨library, w.engine.calls, false⟩ }) := by
  change Ensures (connect L) w fun result last => (result, last) = _
  unfold connect
  rw [Ensures.bind_iff, Ensures.get_iff]
  dsimp only
  split
  · exact rfl
  · rw [Ensures.bind_iff, Ensures.perform_iff, consult_apply]
    have looked : (Clang.find L).run w.engine = ((L.find w.engine.library).1,
        ⟨(L.find w.engine.library).2, w.engine.calls, (L.find w.engine.library).1.isOk⟩) := rfl
    rw [looked]
    rcases L.find w.engine.library with ⟨_ | _, library⟩ <;> exact rfl

/-- A library that is there is not looked for again. -/
theorem connect_of_loaded (L : Library τ) (loaded : w.engine.loaded = true) : (connect L).run w = (.ok (), w) := by
  rw [connect_run, if_pos loaded]

/-- A library that is found now stays, and its finding is reported. -/
theorem connect_of_found (fresh : w.engine.loaded = false) (find : L.find w.engine.library = (.ok (), library)) :
    (connect L).run w = (.ok (), located w library) := by
  rw [connect_run, if_neg (by rw [fresh]; exact Bool.false_ne_true), find]

/-- Without a library there is a reason, and nothing but the search itself has changed. -/
theorem connect_of_missing (fresh : w.engine.loaded = false) {reason : String}
    (find : L.find w.engine.library = (.error reason, library)) : (connect L).run w =
      (.error (.failed (.engineUnavailable reason)), { w with engine := ⟨library, w.engine.calls, false⟩ }) := by
  rw [connect_run, if_neg (by rw [fresh]; exact Bool.false_ne_true), find]

/-- Finding a library is no call of it and makes no part of a graph. -/
theorem connect_frame (connected : (connect L).run w = (.ok (), found)) :
    found.engine.loaded = true ∧ found.engine.calls = w.engine.calls ∧ found.books = w.books := by
  cases loaded : w.engine.loaded with
  | true =>
    rw [connect_of_loaded L loaded] at connected
    obtain rfl := (Prod.mk.inj connected).2
    exact ⟨loaded, rfl, rfl⟩
  | false =>
    rcases find : L.find w.engine.library with ⟨reason | _, library⟩
    · rw [connect_of_missing loaded find] at connected
      cases (Prod.mk.inj connected).1
    · rw [connect_of_found loaded find] at connected
      obtain rfl := (Prod.mk.inj connected).2
      exact ⟨rfl, rfl, rfl⟩

end Finding

/-! ## Judging it -/

/-- A text with a release that is new enough. -/
def Supported (text : String) : Prop := ∃ major, majorRelease? text = .ok (some major) ∧ 16 ≤ major.toNat

/-- Up to the last word it is the release that the text names. -/
theorem supported_iff {text : String} (apart : ¬ Names text (2 ^ 32)) :
    Supported text ↔ ∃ release, Names text release ∧ 16 ≤ release := by
  constructor
  · rintro ⟨major, read, new⟩
    exact ⟨major.toNat, majorRelease?_eq_some_iff.mp read, new⟩
  · rintro ⟨release, names, new⟩
    obtain ⟨major, read, rfl⟩ := names.exists_major fun past => apart (past ▸ names)
    exact ⟨major, read, new⟩

/-- A release past the last word is not read, however new. -/
theorem Names.not_supported {text : String} (past : Names text (2 ^ 32)) : ¬ Supported text := by
  rintro ⟨major, read, -⟩
  rw [majorRelease?_eq_error_iff.mpr past] at read
  cases read

/-- Why a library with this version is not used. -/
def refusal (text : String) : Error := .engineUnavailable (Text.quoted text ++ " is older than libclang 16")

/-- What a version comes to, and what is reported of it. -/
inductive Judged (text : String) : Except LoadFault Unit → List Event → Prop
  | accepted {major : UInt32} (read : majorRelease? text = .ok (some major)) (new : 16 ≤ major.toNat) :
    Judged text (.ok ()) [.versionAccepted major]
  | refused (old : ¬ Supported text) (fits : ¬ Names text (2 ^ 32)) :
    Judged text (.error (.failed (refusal text))) [.versionRefused text]
  | stopped (past : Names text (2 ^ 32)) : Judged text (.error (.panicked .overflow)) []

/-- A version comes to one thing only. -/
theorem Judged.unique {text : String} {result result' : Except LoadFault Unit} {events events' : List Event}
    (one : Judged text result events) (other : Judged text result' events') : result = result' ∧ events = events' := by
  cases one with
  | accepted read new =>
    cases other with
    | accepted read' _ =>
      obtain rfl := Option.some.inj (Except.ok.inj (read.symm.trans read'))
      exact ⟨rfl, rfl⟩
    | refused old _ => exact absurd ⟨_, read, new⟩ old
    | stopped past => exact absurd ⟨_, read, new⟩ past.not_supported
  | refused old fits =>
    cases other with
    | accepted read new => exact absurd ⟨_, read, new⟩ old
    | refused _ _ => exact ⟨rfl, rfl⟩
    | stopped past => exact absurd past fits
  | stopped past =>
    cases other with
    | accepted read new => exact absurd ⟨_, read, new⟩ past.not_supported
    | refused _ fits => exact absurd past fits
    | stopped _ => exact ⟨rfl, rfl⟩

/-- The version is read once, whatever comes of it. -/
theorem checkVersion_judged (L : Library τ) (w : World (Linked τ)) :
    Ensures (checkVersion L) w fun result after => ∃ events, Judged ((version L).run w.engine).1 result events ∧
      after = { w with engine := ((version L).run w.engine).2, events := w.events ++ events } := by
  unfold checkVersion
  rw [Ensures.bind_iff, Ensures.perform_iff, consult_apply]
  dsimp only
  generalize ((version L).run w.engine).1 = text
  cases read : majorRelease? text with
  | error panic =>
    cases panic
    exact ⟨[], .stopped (majorRelease?_eq_error_iff.mp read), by rw [List.append_nil]; rfl⟩
  | ok release =>
    dsimp only
    split
    next major accepted =>
      rw [Option.filter_eq_some_iff, decide_eq_true_eq] at accepted
      obtain ⟨rfl, new⟩ := accepted
      exact ⟨_, .accepted read new, rfl⟩
    next unsupported =>
      have old : ¬ Supported text := by
        rintro ⟨major, same, new⟩
        obtain rfl := Except.ok.inj (read.symm.trans same)
        rw [Option.filter_some, if_pos (decide_eq_true (show minSupportedMajor ≤ major from new))] at unsupported
        cases unsupported
      have fits : ¬ Names text (2 ^ 32) := by
        rw [← majorRelease?_eq_error_iff, read]
        nofun
      have reason : (.engineUnavailable (Text.quoted text ++ " is older than libclang " ++
          toString minSupportedMajor.toNat) : Error) = refusal text := by
        rw [refusal, String.append_assoc]
        rfl
      rw [reason]
      exact ⟨_, .refused old fits, rfl⟩

/-- Once it is found a library is loaded by its version. -/
theorem load_of_connect {w found : World (Linked τ)} (connected : (connect L).run w = (.ok (), found)) :
    (load L).run w = (checkVersion L).run found := by
  rw [load, ExceptT.run_bind, bind_apply, connected]

/-- Once it is found, loading a library comes to what its version comes to. -/
theorem load_judged {w found : World (Linked τ)} (connected : (connect L).run w = (.ok (), found)) :
    ∃ events, Judged ((version L).run found.engine).1 ((load L).run w).1 events := by
  obtain ⟨events, judged, -⟩ := checkVersion_judged L found
  rw [load_of_connect connected]
  exact ⟨events, judged⟩

/-- A library that was not found is not asked for its version. -/
theorem load_of_connect_error {w last : World (Linked τ)} {fault : LoadFault}
    (failed : (connect L).run w = (.error fault, last)) : (load L).run w = (.error fault, last) := by
  rw [load, ExceptT.run_bind, bind_apply, failed]
  rfl

/-! ## The last release -/

/-- How the release of a text comes through the arithmetic of 32-bit words. -/
structure OverflowsOnce (text : String) : Prop where
  nameless_iff : majorRelease? text = .ok none ↔ ∀ release, ¬ Names text release
  /-- A word that is read is the release named, so it is never a smaller one. -/
  exact_iff : ∀ major : UInt32, majorRelease? text = .ok (some major) ↔ Names text major.toNat
  /-- The release after the last word is not read at all: its addition stops the program. -/
  overflows_iff : majorRelease? text = .error .overflow ↔ Names text (2 ^ 32)
  /-- No release goes further than that. -/
  le : ∀ release, Names text release → release ≤ 2 ^ 32
  /-- It goes that far with the digits of the last word, in Apple's numbering alone. -/
  past_iff : Names text (2 ^ 32) ↔ FromApple text ∧ ∃ p : Parts, p.Of text ∧ p.value = 2 ^ 32 - 1
  /-- A library with this text is let in if its release is new enough and does not go that far. -/
  loaded_iff : ∀ {τ : Type} (L : Library τ) (w found : World (Linked τ)), (connect L).run w = (.ok (), found) →
    ((version L).run found.engine).1 = text →
      (((load L).run w).1 = .ok () ↔
        ∃ release, Names text release ∧ minSupportedMajor.toNat ≤ release ∧ release ≠ 2 ^ 32)
  /-- Loading it stops the program if it does. -/
  stopped_iff : ∀ {τ : Type} (L : Library τ) (w found : World (Linked τ)), (connect L).run w = (.ok (), found) →
    ((version L).run found.engine).1 = text →
      (((load L).run w).1 = .error (.panicked .overflow) ↔ Names text (2 ^ 32))

/-- The arithmetic of words is exact on every version text but those of Apple's that have the digits of the
last word: their release is one too many, and the addition overflows. -/
theorem release_overflows_once (text : String) : OverflowsOnce text where
  nameless_iff := majorRelease?_eq_none_iff
  exact_iff _ := majorRelease?_eq_some_iff
  overflows_iff := majorRelease?_eq_error_iff
  le _ := Names.le
  past_iff := Names.past_iff
  loaded_iff L w found connected reported := by
    obtain ⟨events, judged⟩ := load_judged connected
    rw [reported] at judged
    constructor
    · intro loaded
      rw [loaded] at judged
      cases judged with
      | @accepted major read new =>
        exact ⟨major.toNat, majorRelease?_eq_some_iff.mp read, new, Nat.ne_of_lt major.toNat_lt⟩
    · rintro ⟨release, names, new, apart⟩
      obtain ⟨major, read, rfl⟩ := names.exists_major apart
      exact (judged.unique (.accepted read new)).1
  stopped_iff L w found connected reported := by
    obtain ⟨events, judged⟩ := load_judged connected
    rw [reported] at judged
    constructor
    · intro stopped
      rw [stopped] at judged
      cases judged with
      | stopped past => exact past
    · exact fun past => (judged.unique (.stopped past)).1

/-- The parts of a text of Apple's whose digits are those of the last word. -/
theorem parts_of_last : (Parts.mk "Apple clang ".toList "4294967295".toList []).Of "Apple clang version 4294967295" :=
  Parts.of_found (by decide) (by decide) (List.all_eq_true.mp (by decide)) nofun

/-- Apple's release after the last word is neither refused nor read: its addition overflows. -/
theorem last_release_overflows :
    let text := "Apple clang version 4294967295"
    FromApple text ∧ statedMajor? text = some 4294967295 ∧ Names text 4294967296 ∧
      majorRelease? text = .error .overflow ∧
      ¬ (majorRelease? text = .ok none ∨
        ∃ major, majorRelease? text = .ok (some major) ∧ major.toNat = 4294967296) := by
  intro text
  have overflows : majorRelease? text = .error .overflow := by decide
  refine ⟨by decide, by decide, ⟨_, parts_of_last, by decide, by decide, by decide⟩, overflows, ?_⟩
  rw [overflows]
  rintro (none | ⟨major, some, -⟩)
  · cases none
  · cases some

end HandleGraph.Clang
