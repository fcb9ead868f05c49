import HandleGraph.Proofs.Translation
import HandleGraph.Script.Library

/-! # The scripted library answers as the scripted engine

As long as no text of a script has a NUL byte, the script answers behind the C interface as it answers
queries itself.
-/

namespace HandleGraph.Script

open Clang

def StringSpec.Clean : StringSpec → Prop
  | .text bytes => 0 ∉ bytes
  | .null _ | .lost => True

structure Tree.Clean (tree : Tree) : Prop where
  main : tree.main.Clean
  nodes : ∀ node ∈ tree.nodes, ∀ t, (node.texts t).Clean
  files : ∀ file ∈ tree.files, file.name.Clean

/-- A script whose texts have no NUL bytes, those included that it has handed out. -/
structure State.Clean (s : State) : Prop where
  sources : ∀ entry ∈ s.sources, entry.2.Clean
  saved : ∀ entry ∈ s.saved, entry.2.Clean
  units : ∀ entry ∈ s.units, entry.2.tree.Clean
  strings : ∀ entry ∈ s.strings, ∀ bytes, entry.2 = some bytes → 0 ∉ bytes

section Tables

variable {κ β : Type}

private theorem mem_of_lookup [BEq κ] [LawfulBEq κ] {table : List (κ × β)} {key : κ} {value : β}
    (found : table.lookup key = some value) :
    (key, value) ∈ table := by
  obtain ⟨before, after, rfl, -⟩ := List.lookup_eq_some_iff.mp found
  exact List.mem_append_right _ List.mem_cons_self

variable [DecidableEq κ]

/-- Only the new entry is new. -/
theorem mem_put {table : List (κ × β)} {key : κ} {value : β} {entry : κ × β} (member : entry ∈ put key value table) :
    entry = (key, value) ∨ entry ∈ table := by
  induction table with
  | nil => exact .inl (List.mem_singleton.mp member)
  | cons first rest ih =>
    rw [put] at member
    split at member
    · exact (List.mem_cons.mp member).imp_right (List.mem_cons_of_mem _)
    · rcases List.mem_cons.mp member with rfl | later
      · exact .inr List.mem_cons_self
      · exact (ih later).imp_right (List.mem_cons_of_mem _)

private theorem mem_of_mem_remove {table : List (κ × β)} {key : κ} {entry : κ × β} (member : entry ∈ remove key table) :
    entry ∈ table := List.mem_of_mem_filter member

end Tables

namespace State.Clean

variable {s : State}

/-! ## What a clean script hands out -/

private theorem tree (clean : s.Clean) {unit : UInt64} {tree : Tree} (found : s.tree? unit = some tree) :
    tree.Clean := by
  obtain ⟨held, present, rfl⟩ := Option.map_eq_some_iff.mp found
  exact clean.units _ (mem_of_lookup present)

private theorem main (clean : s.Clean) (unit : UInt64) :
    ((s.tree? unit).elim (.null 0) (·.main) : StringSpec).Clean := by
  cases found : s.tree? unit with
  | none => trivial
  | some tree => exact (clean.tree found).main

private theorem text (clean : s.Clean) (c : CursorHandle) (t : CursorText) :
    ((s.node? c).elim (.null 0) (·.texts t) : StringSpec).Clean := by
  cases found : s.node? c with
  | none => trivial
  | some node =>
    obtain ⟨tree, held, here⟩ := Option.bind_eq_some_iff.mp found
    split at here
    · cases here
    · exact (clean.tree held).nodes node (List.mem_of_getElem? here) t

private theorem fileName (clean : s.Clean) (file : UInt64) :
    ((s.file? file).elim (.null 0) (·.name) : StringSpec).Clean := by
  cases found : s.file? file with
  | none => trivial
  | some spec =>
    obtain ⟨position, -, inside⟩ := Option.bind_eq_some_iff.mp found
    obtain ⟨tree, held, here⟩ := Option.bind_eq_some_iff.mp inside
    exact (clean.tree held).files spec (List.mem_of_getElem? here)

/-! ## Scripts stay clean -/

private theorem issued (clean : s.Clean) : (issue s).2.Clean := { clean with }

private theorem handedOut (clean : s.Clean) {spec : StringSpec} (here : spec.Clean) : (handOut spec s).2.Clean := by
  have added (text : Option Bytes) (free : ∀ bytes, text = some bytes → 0 ∉ bytes) : (issueString text s).2.Clean := by
    refine { clean with strings := fun entry member => ?_ }
    rcases List.mem_append.mp member with old | new
    · exact clean.strings entry old
    · obtain rfl := List.mem_singleton.mp new
      exact free
  cases spec with
  | null flags => exact clean
  | text bytes => exact added (some bytes) fun _ same => Option.some.inj same ▸ here
  | lost => exact added none nofun

private theorem opened (clean : s.Clean) (path : Bytes) {tree : Option Tree} (here : ∀ t, tree = some t → t.Clean) :
    (openUnit path tree s).2.Clean := by
  cases tree with
  | none => exact clean
  | some tree =>
    refine { clean with units := fun entry member => ?_ }
    rcases List.mem_append.mp member with old | new
    · exact clean.units entry old
    · obtain rfl := List.mem_singleton.mp new
      exact here tree rfl

private theorem refreshed (clean : s.Clean) (unit : UInt64) : (refresh unit s).2.Clean := by
  dsimp only [refresh, modify, modifyGet, MonadStateOf.modifyGet, StateT.modifyGet]
  split
  · exact clean
  · split
    · exact clean
    · next held _ _ tree found =>
      refine { clean with units := fun entry member => ?_ }
      rcases mem_put member with rfl | old
      · exact clean.sources _ (mem_of_lookup found)
      · exact clean.units entry old

private theorem stored (clean : s.Clean) (unit : UInt64) (path : Bytes) : (store unit path s).2.Clean := by
  change State.Clean ((s.tree? unit).elim s _)
  cases found : s.tree? unit with
  | none => exact clean
  | some tree =>
    refine { clean with saved := fun entry member => ?_ }
    rcases mem_put member with rfl | old
    · exact clean.tree found
    · exact clean.saved entry old

private theorem used (clean : s.Clean) (unit : UInt64) (path : Bytes) : (useFile unit path s).2.Clean := by
  have read : (get : Work State) s = (s, s) := rfl
  dsimp only [useFile, bind_apply]
  rw [read]
  cases (s.tree? unit).bind fun tree => tree.files.findIdx? (·.path == path) with
  | none => exact clean
  | some position => exact { clean with }

/-- Whatever a clean script answers, it stays clean. -/
theorem answered (clean : s.Clean) (q : Query) : (answer q s).2.Clean := by
  cases q with
  | createIndex options =>
    change State.Clean ((if s.failIndex then _ else _ : Work IndexHandle) s).2
    split
    · exact clean
    · exact clean.issued
  | parse i path args unsaved options => exact clean.opened _ fun _ found => clean.sources _ (mem_of_lookup found)
  | load i path => exact clean.opened _ fun _ found => clean.saved _ (mem_of_lookup found)
  | reparse u unsaved options =>
    change State.Clean ((if s.reparseStatus = 0 then _ else _ : Work Int32) s).2
    split
    · exact clean.refreshed _
    · exact clean
  | save u path options =>
    change State.Clean ((if s.saveStatus = 0 then _ else _ : Work Int32) s).2
    split
    · exact clean.stored _ _
    · exact clean
  | disposeUnit u => exact { clean with units := fun entry member => clean.units entry (mem_of_mem_remove member) }
  | unitSpelling u => exact clean.handedOut (clean.main _)
  | getFile u path => exact clean.used _ _
  | fileName file => exact clean.handedOut (clean.fileName _)
  | disposeString text =>
    exact { clean with strings := fun entry member => clean.strings entry (mem_of_mem_remove member) }
  | text t c => exact clean.handedOut (clean.text c t)
  | _ => exact clean

end State.Clean

/-! ## The C interface -/

private theorem truncate_text {bytes : Bytes} (free : 0 ∉ bytes) :
    (CString.truncate bytes).text = Text.lossy bytes := by
  rw [CString.truncate_eq_self free, CString.text]

private theorem cString_text {s : State} (clean : s.Clean) (x : CXString) :
    (cString x s).1.map CString.text = ((s.strings.lookup x.data).bind id).map Text.lossy := by
  change ((((s.strings.lookup x.data).bind id).map CString.truncate).map CString.text) = _
  cases found : s.strings.lookup x.data with
  | none => rfl
  | some held =>
    cases held with
    | none => rfl
    | some bytes => exact congrArg some (truncate_text (clean.strings _ (mem_of_lookup found) bytes rfl))

/-- Behind the C interface a clean script answers the same and ends up the same. -/
theorem library_answersAs : AnswersAs library engine fun t s => t = s ∧ s.Clean where
  call := by
    rintro q f same translates s _ ⟨rfl, clean⟩
    have stays := clean.answered q
    cases translates with
    | disposeIndex | disposeUnit => exact ⟨trivial, rfl, stays⟩
    | unitSpelling | fileName => exact ⟨sameString_toCXString _, rfl, stays⟩
    | rootCursor => exact ⟨sameCursor_toCX _, rfl, stays⟩
    | readString same =>
      obtain rfl := same.eq_toCXString
      exact ⟨cString_text clean _, rfl, stays⟩
    | disposeString same =>
      obtain rfl := same.eq_toCXString
      exact ⟨trivial, rfl, stays⟩
    | equalCursors first second =>
      obtain rfl := first.eq_toCX
      obtain rfl := second.eq_toCX
      exact ⟨meansTruth_toCInt _, rfl, stays⟩
    | link l same | argument same =>
      obtain rfl := same.eq_toCX
      exact ⟨sameCursor_toCX _, rfl, stays⟩
    | text t same =>
      obtain rfl := same.eq_toCX
      exact ⟨sameString_toCXString _, rfl, stays⟩
    | test t same =>
      obtain rfl := same.eq_toCX
      exact ⟨bne_iff_ne, rfl, stays⟩
    | hash same | argumentCount same | bitWidth same =>
      obtain rfl := same.eq_toCX
      exact ⟨rfl, rfl, stays⟩
    | _ => exact ⟨rfl, rfl, stays⟩
  children := by
    rintro c x visitor callback same - s _ ⟨rfl, clean⟩
    have shown : (childEntries x s).1 = (Script.children c s).1.map toCX := by rw [← same.ofCX_eq]; rfl
    refine ⟨?_, rfl, clean⟩
    change List.Forall₂ SameCursor (Script.children c s).1 (childEntries x s).1
    rw [shown, List.forall₂_map_right_iff, List.forall₂_same]
    exact fun c _ => sameCursor_toCX c

end HandleGraph.Script
