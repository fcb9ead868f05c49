import HandleGraph.Proofs.Loading
import HandleGraph.Proofs.LockstepSessions
import HandleGraph.Proofs.Marshaling
import HandleGraph.Proofs.ScriptedLibrary

/-! # The binding is transparent

Once a library has been loaded, a session over its binding is a session over the engine that the library
answers as: request by request it gives the same replies and keeps the same objects, and each call of the
engine stands for one call of the library.
-/

namespace HandleGraph.Clang

variable {σ τ : Type}

/-- A call of an engine, and the call of the C interface that stands for it. -/
inductive SameCall : Call → LibraryCall → Prop
  | asked {q : Query} {f : Entry} {same : q.Answer → f.Result → Prop} (translates : Translates q f same)
      (a : q.Answer) : SameCall (.asked q a) (.called f)
  | walked {c : CursorHandle} {x : CXCursor} (same : SameCursor c x) (walk : Walk) :
      SameCall (.walked c walk) (.visited x walk.shown.length walk.stopped)

/-- A world over a library is as it was when the library had been loaded, but for what has happened in the
world of the engine. -/
structure Mirrors (R : τ → σ → Prop) (loaded w : World (Linked τ)) (v : World σ) : Prop where
  state : R w.engine.library v.engine
  indexes : w.indexes = v.indexes
  units : w.units = v.units
  calls : w.calls = v.calls
  events : w.events = loaded.events ++ v.events
  native : ∃ made, w.engine.calls = loaded.engine.calls ++ made ∧ List.Forall₂ SameCall v.calls made

/-- Worlds belong together when one mirrors the other. Nothing is granted of the calls. -/
def mirroring (R : τ → σ → Prop) (loaded : World (Linked τ)) : Coupling (World (Linked τ)) (World σ) where
  granted _ := True
  closed _ _ := trivial
  rel := Mirrors R loaded

variable {L : Library τ} {E : Engine σ} {R : τ → σ → Prop} {loaded : World (Linked τ)}

namespace Mirrors

variable {w : World (Linked τ)} {v : World σ}

private theorem sameCells (mirrors : Mirrors R loaded w v) : SameCells w v :=
  ⟨mirrors.indexes, congrArg _ mirrors.units⟩

private theorem native_append {calls : List LibraryCall} {made : List Call} {call : Call} {f : LibraryCall}
    (native : ∃ later, calls = loaded.engine.calls ++ later ∧ List.Forall₂ SameCall made later)
    (same : SameCall call f) :
    ∃ later, calls ++ [f] = loaded.engine.calls ++ later ∧ List.Forall₂ SameCall (made ++ [call]) later := by
  obtain ⟨later, rfl, alike⟩ := native
  exact ⟨later ++ [f], List.append_assoc .., List.rel_append alike (.cons same .nil)⟩

end Mirrors

private theorem ask_mirrors (answers : AnswersAs L E R) (q : Query) (fit : FitInterface q.lists)
    (readable : ∀ s, q = .readString s → s.isNull = false) :
    Alike (mirroring R loaded) (ask (engine L) q) (ask E q) where
  grows _ := List.prefix_append ..
  grows' _ := List.prefix_append ..
  same {w v} mirrors _ _ := by
    obtain ⟨f, same, translates, answered⟩ := answer_translates L q fit readable
    obtain ⟨result, linked⟩ := answered w.engine
    obtain ⟨alike, related⟩ := answers.call translates mirrors.state
    have answer : (answer L q w.engine).1 = (E.answer q v.engine).1 := result _ alike
    refine ⟨answer, ?_, mirrors.indexes, mirrors.units, ?_, mirrors.events, ?_⟩
    · change R (Clang.answer L q w.engine).2.library _
      rw [linked]
      exact related
    · change w.calls ++ [.asked q (Clang.answer L q w.engine).1] = v.calls ++ [.asked q (E.answer q v.engine).1]
      rw [mirrors.calls, answer]
    · change ∃ made, (Clang.answer L q w.engine).2.calls = _ ∧ _
      rw [linked]
      exact Mirrors.native_append mirrors.native (.asked translates _)

private theorem takeOptionalString_mirrors (answers : AnswersAs L E R) (s : StringHandle) :
    Alike (mirroring R loaded) (takeOptionalString (engine L) s) (takeOptionalString E s) := by
  have fit : FitInterface ([], []) := by simp [FitInterface]
  unfold takeOptionalString
  split_ifs with null
  · exact .pure none
  · refine (ask_mirrors answers (.readString s) fit ?_).bind fun text => ?_
    · rintro _ ⟨⟩
      simpa using null
    · exact (ask_mirrors answers (.disposeString s) fit nofun).bind fun _ => .pure text

private theorem walk_mirrors (answers : AnswersAs L E R) (c : CursorHandle) (visitor : Visitor) :
    Alike (mirroring R loaded) (walkChildren (engine L) c visitor) (walkChildren E c visitor) where
  grows _ := List.prefix_append ..
  grows' _ := List.prefix_append ..
  same {w v} mirrors _ _ := by
    have same := sameVisitor_callback visitor
    obtain ⟨offered, related⟩ := answers.children (sameCursor_toCX c) same mirrors.state
    obtain ⟨shown, stopped⟩ := same.walk offered
    have walk : (walkChildren (engine L) c visitor w).1 = visitor.walk (E.children c visitor v.engine).1 := by
      change visitor.walk (List.map ofCX (L.children (toCX c) (callback visitor) w.engine.library).1) = _
      rw [map_ofCX offered]
    refine ⟨walk, related, mirrors.indexes, mirrors.units, ?_, mirrors.events, ?_⟩
    · change w.calls ++ [.walked c (walkChildren (engine L) c visitor w).1] = v.calls ++ [.walked c _]
      rw [mirrors.calls, walk]
    · refine Mirrors.native_append mirrors.native ?_
      rw [← shown.length_eq, stopped]
      exact .walked (sameCursor_toCX c) _

private theorem lockstep (answers : AnswersAs L E R) (there : Nonempty τ) (here : Nonempty σ) :
    Lockstep (engine L) E FitInterface (mirroring R loaded) where
  inhabited := there.map fun library => ⟨library, [], true⟩
  inhabited' := here
  cells mirrors := mirrors.sameCells
  fits_nil := by simp [FitInterface]
  asking q plain fit := ask_mirrors answers q fit (by rintro s rfl; cases plain)
  copying source := by
    have fit : FitInterface ([], []) := by simp [FitInterface]
    cases source with
    | unit raw => exact (ask_mirrors answers (.unitSpelling raw) fit nofun).bind (takeOptionalString_mirrors answers)
    | file raw => exact (ask_mirrors answers (.fileName raw) fit nofun).bind (takeOptionalString_mirrors answers)
    | cursor t raw => exact (ask_mirrors answers (.text t raw) fit nofun).bind (takeOptionalString_mirrors answers)
  walking := walk_mirrors answers
  reporting e := by
    refine .quiet (fun _ => rfl) (fun _ => rfl) fun {w v} mirrors => ⟨rfl, { mirrors with events := ?_ }⟩
    change w.events ++ [e] = loaded.events ++ (v.events ++ [e])
    rw [mirrors.events, List.append_assoc]
  indexes change mirrors := { mirrors with indexes := congrArg change mirrors.indexes }
  units change _ mirrors := { mirrors with units := congrArg change mirrors.units }

/-! ## Sessions -/

private theorem unit_drop_mirrors (step : Lockstep (engine L) E FitInterface (mirroring R loaded))
    (u : TranslationUnit) :
    Alike (mirroring R loaded) (u.drop (engine L)) (u.drop E) := by
  refine Alike.get (V := fun (w : World (Linked τ)) (v : World σ) => w.units = v.units)
    (fun mirrors => mirrors.units) ?_ ?_ fun w v same => ?_
  · exact fun w => step.inhabited'.elim fun engine => ⟨⟨engine, [], w.units, [], []⟩, rfl⟩
  · exact fun v => step.inhabited.elim fun engine => ⟨⟨engine, [], v.units, [], []⟩, rfl⟩
  refine (step.update_unit u (fun cell => { cell with owners := cell.owners - 1 })
    fun _ _ same => same).bind fun _ => ?_
  have owners : u.owners w = u.owners v := by rw [TranslationUnit.owners, same, TranslationUnit.owners]
  have raw : u.raw w = u.raw v := by rw [TranslationUnit.raw, same, TranslationUnit.raw]
  have index : u.index w = u.index v := by rw [TranslationUnit.index, same, TranslationUnit.index]
  rw [owners, raw, index]
  refine .ite _ ((step.reporting _).bind fun _ => ?_) (.pure ())
  exact (step.asking (.disposeUnit _) rfl step.fits_nil).bind fun _ => step.drop_index _

/-- The lists that a command passes on can be counted by the C interface. -/
def Counted : Command → Prop
  | .parse _ _ args files _ | .ofSource _ args files _ => args.length < 2 ^ 31 ∧ files.length < 2 ^ 31
  | .reparse _ files _ => files.length < 2 ^ 31
  | _ => True

/-- Conversion keeps the lengths of lists. -/
theorem listsFit_of_lengths {args : List String} {files : List UnsavedFile} (few : args.length < 2 ^ 31)
    (fewFiles : files.length < 2 ^ 31) : ListsFit FitInterface args files := by
  intro a n marshaledArgs marshaledFiles
  have spell := Marshal.args_converts args
  have pair := Marshal.unsaved_converts files
  rw [marshaledArgs] at spell
  rw [marshaledFiles] at pair
  have sameArgs := congrArg List.length spell.2
  have sameFiles := congrArg List.length pair.2
  simp only [argBytes, List.length_map] at sameArgs sameFiles
  exact ⟨sameArgs ▸ few, sameFiles ▸ fewFiles⟩

private theorem Counted.fits {c : Command} (counted : Counted c) : c.Fits FitInterface := by
  cases c with
  | parse => exact listsFit_of_lengths counted.1 counted.2
  | ofSource => exact listsFit_of_lengths counted.1 counted.2
  | reparse => exact listsFit_of_lengths (by decide) counted
  | _ => trivial

/-- Work in a session over the binding comes to the same as work in a session over the engine. -/
structure SameCourse {α : Type} (R : τ → σ → Prop) (loaded : World (Linked τ)) (there : α × Session (Linked τ))
    (here : α × Session σ) : Prop where
  result : there.1 = here.1
  slots : there.2.slots = here.2.slots
  mirrors : Mirrors R loaded there.2.world here.2.world

/-- Once a library has been loaded that answers as an engine does, requests get the same replies over the
binding as over the engine, with the same native calls, and so it is when the session ends. -/
theorem binding_transparent (answers : AnswersAs L E R) {linked : Linked τ}
    (success : (load L).run (.start linked) = (.ok (), loaded)) {engine : σ}
    (related : R loaded.engine.library engine) {requests : List Request}
    (graph : ∀ r ∈ requests, r.command.OnGraph) (counted : ∀ r ∈ requests, Counted r.command) :
    SameCourse R loaded (Session.run (Clang.engine L) (pure ()) requests ⟨loaded, .empty⟩)
        (Session.run E (pure ()) requests (.start engine)) ∧
      SameCourse R loaded
        (Session.close (Clang.engine L) (Session.run (Clang.engine L) (pure ()) requests ⟨loaded, .empty⟩).2)
        (Session.close E (Session.run E (pure ()) requests (.start engine)).2) := by
  have books := silent_load L (.start linked)
  rw [success] at books
  have begins : Mirrors R loaded loaded (.start engine) :=
    ⟨related, congrArg World.indexes books, congrArg World.units books, congrArg World.calls books,
      (List.append_nil _).symm, [], (List.append_nil _).symm, .nil⟩
  have step : Lockstep (Clang.engine L) E FitInterface (mirroring R loaded) :=
    lockstep answers ⟨linked.library⟩ ⟨engine⟩
  have letGo := unit_drop_mirrors step
  have ran := step.requests letGo (.ok ()) graph fun r member => (counted r member).fits
  obtain ⟨replies, together, slots⟩ :=
    ran.same (s := ⟨loaded, .empty⟩) (t := .start engine) ⟨begins, rfl⟩ trivial trivial
  obtain ⟨closed, apart, emptied⟩ := (step.close letGo).same ⟨together, slots⟩ trivial trivial
  exact ⟨⟨replies, slots, together⟩, ⟨closed, emptied, apart⟩⟩

def versioned : Script.State := { Sample.script with version := .text (Text.encode "clang version 17.0.6") }

private theorem versioned_clean : ({ versioned with issued := 1 } : Script.State).Clean where
  sources entry member := by
    obtain rfl := List.mem_singleton.mp member
    have free : (0 : UInt8) ∉ [97] ∧ (0 : UInt8) ∉ [102] := by decide
    refine ⟨free.1, fun node member t => ?_, nofun⟩
    obtain rfl := List.mem_singleton.mp member
    exact free.2
  saved := nofun
  units := nofun
  strings := nofun

/-- The world in which the sample library has been found and loaded. -/
def versionedLoaded : World (Linked Script.State) := ((load Script.library).run (.start ⟨versioned, [], false⟩)).2

theorem binding_transparent_sample :
    ((load Script.library).run (.start ⟨versioned, [], false⟩)).1 = .ok () ∧
      (Session.run (Clang.engine Script.library) (pure ()) Sample.requests
          ⟨versionedLoaded, .empty⟩).1.map Except.isOk =
        List.replicate 10 true := by
  have success : ((load Script.library).run (.start ⟨versioned, [], false⟩)).1 = .ok () := by decide +kernel
  have ran : (load Script.library).run (.start ⟨versioned, [], false⟩) = (.ok (), versionedLoaded) :=
    Prod.ext success rfl
  have state : versionedLoaded.engine.library = { versioned with issued := 1 } := by
    have connected : (connect Script.library).run (.start ⟨versioned, [], false⟩) =
        (.ok (), { World.start ⟨versioned, [], true⟩ with events := [.libraryLoaded] }) := rfl
    obtain ⟨events, -, loaded⟩ := checkVersion_judged Script.library
      { World.start ⟨versioned, [], true⟩ with events := [.libraryLoaded] }
    rw [versionedLoaded, load_of_connect connected, loaded]
    rfl
  have transparent := binding_transparent Script.library_answersAs ran ⟨state, state ▸ versioned_clean⟩
    Sample.requests_onGraph (by simp [Sample.requests, Counted])
  refine ⟨success, ?_⟩
  rw [transparent.1.result]
  decide +kernel

end HandleGraph.Clang
