import HandleGraph.Kind.Slots
import Mathlib.Data.Finset.Card

/-! # First registrations count

A registry is told by the registrations that were asked of it, also those that failed: a value is
registered when it was asked for, it carries the name of the first time, and the kinds are listed in the
order of their first times. The two maps hold these first registrations, one by the value and the other by
the kind, so that every kind which is listed has a name.
-/

namespace HandleGraph.KindRegistry

/-- Registrations in the order in which they were asked for: values and enumerators. -/
abbrev History := List (Int32 × String)

namespace History

def values (h : History) : List Int32 := h.map (·.1)

/-- The first registration of a value. -/
def first? (h : History) (value : Int32) : Option (Int32 × String) := h.find? (·.1 == value)

def firsts : History → History
  | [] => []
  | first :: later => first :: (firsts later).filter (·.1 != first.1)

variable {h : History} {value : Int32}

theorem first?_eq_none_iff : h.first? value = none ↔ value ∉ h.values := by
  simp only [first?, List.find?_eq_none, beq_iff_eq, values, List.mem_map, not_exists, not_and]

theorem mem_values_of_first? {first : Int32 × String} (found : h.first? value = some first) :
    value ∈ h.values := by
  by_contra absent
  rw [first?_eq_none_iff.mpr absent] at found
  cases found

theorem value_of_first? {first : Int32 × String} (found : h.first? value = some first) : first.1 = value := by
  simpa using List.find?_some (show h.find? (·.1 == value) = some first from found)

/-- Leaving out later registrations of a value keeps the first registration of every value. -/
theorem first?_firsts (h : History) (value : Int32) : h.firsts.first? value = h.first? value := by
  induction h with
  | nil => rfl
  | cons first later ih =>
    rw [first?, first?, firsts, List.find?_cons, List.find?_cons]
    by_cases here : first.1 = value
    · simp [here]
    · have left : (fun other : Int32 × String => decide (other.1 != first.1 ∧ other.1 == value)) =
          (·.1 == value) := by
        funext other
        by_cases same : other.1 = value
        · simp [same, Ne.symm here]
        · simp [same]
      rw [beq_false_of_ne here, List.find?_filter, left]
      exact ih

/-- First registrations stand in the order in which they were made. -/
theorem firsts_sublist (h : History) : h.firsts.Sublist h := by
  induction h with
  | nil => exact .slnil
  | cons first later ih => exact (List.filter_sublist.trans ih).cons_cons first

private theorem nodup_firsts (h : History) : h.firsts.values.Nodup := by
  induction h with
  | nil => exact List.nodup_nil
  | cons first later ih =>
    refine List.nodup_cons.mpr ⟨?_, (List.filter_sublist.map _).nodup ih⟩
    simp only [List.mem_map, List.mem_filter, not_exists, not_and]
    rintro other ⟨-, different⟩ same
    simp [same] at different

private theorem mem_values_firsts : value ∈ h.firsts.values ↔ value ∈ h.values := by
  rw [← not_iff_not, ← first?_eq_none_iff, ← first?_eq_none_iff, first?_firsts]

/-- What comes first for some value comes first for its own. -/
theorem first?_of_mem_firsts {first : Int32 × String} (member : first ∈ h.firsts) :
    h.first? first.1 = some first := by
  induction h with
  | nil => cases member
  | cons head later ih =>
    rw [first?, List.find?_cons]
    obtain rfl | member := List.mem_cons.mp member
    · rw [beq_self_eq_true]
    · obtain ⟨member, different⟩ := List.mem_filter.mp member
      rw [beq_false_of_ne (Ne.symm (bne_iff_ne.mp different))]
      exact ih member

/-- As many values come first as there are different ones. -/
theorem length_firsts (h : History) : h.firsts.length = h.values.toFinset.card := by
  have same : h.firsts.values.toFinset = h.values.toFinset := by
    ext value
    rw [List.mem_toFinset, List.mem_toFinset, mem_values_firsts]
  rw [← same, List.toFinset_card_of_nodup h.nodup_firsts, values, List.length_map]

private theorem firsts_eq_nil_iff : h.firsts = [] ↔ h = [] := by
  cases h <;> simp [firsts]

/-- One more registration counts when its value is new. -/
theorem firsts_append (h : History) (value : Int32) (token : String) :
    firsts (h ++ [(value, token)]) = if value ∈ h.values then h.firsts else h.firsts ++ [(value, token)] := by
  induction h with
  | nil => rfl
  | cons first later ih =>
    rw [List.cons_append, firsts, ih, firsts]
    by_cases same : value = first.1
    · have known : value ∈ values (first :: later) := by simp [values, same]
      rw [if_pos known]
      split <;> simp [same]
    · have later_iff : value ∈ values (first :: later) ↔ value ∈ values later := by simp [values, same]
      simp only [later_iff]
      split
      · rfl
      · simp [same]

end History

/-! ## One registry -/

variable {K : Type} [NativeKind K] {r : KindRegistry K} {h : History} {value : Int32}

/-- Both maps hold the first registrations, in their order. -/
structure Tracks (r : KindRegistry K) (h : History) : Prop where
  kinds : r.kinds.entries = h.firsts.map fun first => (first.1, NativeKind.ofValue first.1)
  names : r.names.entries =
    h.firsts.map fun first => (NativeKind.ofValue first.1, KindName.normalize first.2)

/-- A registry answers what the map of the first registrations in `h` answers. -/
structure HoldsFirsts (r : KindRegistry K) (h : History) : Prop where
  register_iff : ∀ value token,
    (∃ after, r.register value token = .ok (NativeKind.ofValue value, after)) ↔ value ∉ h.values
  duplicate : ∀ value token first, h.first? value = some first →
    r.register value token = .error (.duplicateKind value (KindName.normalize first.2))
  lookup : ∀ value, r.lookup value =
    if value ∈ h.values then .ok (NativeKind.ofValue value) else .error (.unknownKind value)
  name : ∀ kind first, h.first? (NativeKind.value kind) = some first →
    r.name kind = .ok (KindName.normalize first.2)
  nameless : ∀ kind, NativeKind.value kind ∉ h.values →
    r.name kind = .error (.unknownKind (NativeKind.value kind))
  contains : ∀ value, r.contains value = decide (value ∈ h.values)
  size : r.size = h.values.toFinset.card
  isEmpty : r.isEmpty = h.isEmpty
  entries : r.entries =
    h.firsts.map fun first => ⟨NativeKind.ofValue first.1, KindName.normalize first.2⟩
  once : (r.entries.map fun entry => NativeKind.value entry.kind).Nodup
  ordered : (r.entries.map fun entry => NativeKind.value entry.kind).Sublist h.values
  named : ∀ kind ∈ r.kinds.values, (r.names.find? kind).isSome

private theorem ofValue_beq (value : Int32) (kind : K) :
    ((NativeKind.ofValue value : K) == kind) = (value == NativeKind.value kind) := by
  rw [Bool.eq_iff_iff, NativeKind.beq_iff, NativeKind.value_ofValue, beq_iff_eq]

theorem empty_tracks : (empty : KindRegistry K).Tracks [] := ⟨rfl, rfl⟩

namespace Tracks

private theorem find?_kinds (tracks : r.Tracks h) (value : Int32) :
    r.kinds.find? value = (h.first? value).map fun _ => NativeKind.ofValue value := by
  rw [OrderedMap.find?, tracks.kinds, List.find?_map, Option.map_map, ← History.first?_firsts]
  change (h.firsts.first? value).map _ = _
  cases found : h.firsts.first? value with
  | none => rfl
  | some first =>
    obtain rfl := History.value_of_first? found
    rfl

private theorem find?_names (tracks : r.Tracks h) (kind : K) :
    r.names.find? kind =
      (h.first? (NativeKind.value kind)).map fun first => KindName.normalize first.2 := by
  rw [OrderedMap.find?, tracks.names, List.find?_map, Option.map_map, ← History.first?_firsts]
  simp only [Function.comp_def, ofValue_beq]
  rfl

/-- The name that is kept for a registered kind, so that the empty name is never used. -/
theorem nameOrEmpty (tracks : r.Tracks h) {first : Int32 × String} (found : h.first? value = some first) :
    r.nameOrEmpty (NativeKind.ofValue value) = KindName.normalize first.2 := by
  rw [KindRegistry.nameOrEmpty, tracks.find?_names, NativeKind.value_ofValue, found]
  rfl

/-- Asking for a value again changes nothing. -/
theorem again (tracks : r.Tracks h) (known : value ∈ h.values) (token : String) :
    r.Tracks (h ++ [(value, token)]) := by
  constructor
  · rw [tracks.kinds, History.firsts_append, if_pos known]
  · rw [tracks.names, History.firsts_append, if_pos known]

private theorem register_known (tracks : r.Tracks h) {first : Int32 × String} (found : h.first? value = some first)
    (token : String) :
    r.register value token = .error (.duplicateKind value (KindName.normalize first.2)) := by
  rw [register, tracks.find?_kinds, found]
  simp only [Option.map_some, tracks.nameOrEmpty found]

/-- A new value is put at the end of both maps. -/
theorem register_new (tracks : r.Tracks h) (new : value ∉ h.values) (token : String) :
    ∃ after, r.register value token = .ok (NativeKind.ofValue value, after) ∧
      after.Tracks (h ++ [(value, token)]) := by
  have absent := History.first?_eq_none_iff.mpr new
  have no_kind : r.kinds.find? value = none := by rw [tracks.find?_kinds, absent]; rfl
  have no_name : r.names.find? (NativeKind.ofValue value) = none := by
    rw [tracks.find?_names, NativeKind.value_ofValue, absent]; rfl
  refine ⟨_, by rw [register, no_kind], ?_, ?_⟩
  · rw [OrderedMap.insert_of_find?_none no_kind, tracks.kinds, History.firsts_append, if_neg new,
      List.map_append]
    rfl
  · rw [OrderedMap.insert_of_find?_none no_name, tracks.names, History.firsts_append, if_neg new,
      List.map_append]
    rfl

/-- Entries are the first registrations, with their names normalised. -/
theorem entries (tracks : r.Tracks h) :
    r.entries = h.firsts.map fun first => ⟨NativeKind.ofValue first.1, KindName.normalize first.2⟩ := by
  rw [KindRegistry.entries, OrderedMap.values, tracks.kinds, List.map_map, List.map_map]
  refine List.map_congr_left fun first member => ?_
  simp only [Function.comp_apply, tracks.nameOrEmpty (History.first?_of_mem_firsts member)]

/-- The values of the kinds that are listed. -/
theorem listed (tracks : r.Tracks h) :
    (r.entries.map fun entry => NativeKind.value entry.kind) = h.firsts.values := by
  rw [tracks.entries, List.map_map, History.values]
  exact List.map_congr_left fun first _ => NativeKind.value_ofValue first.1

/-- Both maps of a registry are filled by first registrations only, so every question is answered by these. -/
theorem holdsFirsts (tracks : r.Tracks h) : r.HoldsFirsts h where
  register_iff value token := by
    constructor
    · rintro ⟨after, registered⟩ known
      cases found : h.first? value with
      | none => exact History.first?_eq_none_iff.mp found known
      | some first =>
        rw [tracks.register_known found] at registered
        cases registered
    · intro new
      obtain ⟨after, registered, -⟩ := tracks.register_new new token
      exact ⟨after, registered⟩
  duplicate value token first found := tracks.register_known found token
  lookup value := by
    rw [KindRegistry.lookup, tracks.find?_kinds]
    cases found : h.first? value with
    | none => rw [if_neg (History.first?_eq_none_iff.mp found)]; rfl
    | some first => rw [if_pos (History.mem_values_of_first? found)]; rfl
  name kind first found := by
    rw [KindRegistry.name, tracks.find?_names, found]; rfl
  nameless kind absent := by
    rw [KindRegistry.name, tracks.find?_names, History.first?_eq_none_iff.mpr absent]; rfl
  contains value := by
    rw [KindRegistry.contains, tracks.find?_kinds, Option.isSome_map, Bool.eq_iff_iff, decide_eq_true_iff,
      ← not_iff_not, ← History.first?_eq_none_iff, Bool.not_eq_true, Option.isSome_eq_false_iff,
      Option.isNone_iff_eq_none]
  size := by rw [KindRegistry.size, tracks.kinds, List.length_map, History.length_firsts]
  isEmpty := by
    rw [KindRegistry.isEmpty, tracks.kinds, List.isEmpty_map, Bool.eq_iff_iff, List.isEmpty_iff,
      List.isEmpty_iff, History.firsts_eq_nil_iff]
  entries := tracks.entries
  once := by
    rw [tracks.listed]
    exact h.nodup_firsts
  ordered := by
    rw [tracks.listed]
    exact h.firsts_sublist.map _
  named kind listed := by
    rw [OrderedMap.values, tracks.kinds, List.map_map] at listed
    obtain ⟨first, member, rfl⟩ := List.mem_map.mp listed
    rw [Function.comp_apply, tracks.find?_names, NativeKind.value_ofValue,
      History.first?_of_mem_firsts member]
    rfl

end Tracks

/-! ## Families -/

/-- What the registries were asked for, after one more step. A copy has been asked for what its source has. -/
def asked (h : String → History) : Step → String → History
  | .register on value token => Function.update h on (h on ++ [(value, token)])
  | .copy on target => Function.update h target (h on)
  | .lookup .. | .name .. | .contains .. | .size .. | .entries .. => h

/-- What the registries of a family were asked for by some steps. -/
def histories (steps : List Step) : String → History := steps.foldl asked fun _ => []

def after (steps : List Step) : SlotMap (KindRegistry K) :=
  steps.foldl (fun family s => (step family s).2) .empty

def Step.target? : Step → Option String
  | .register on _ _ => some on
  | .copy _ target => some target
  | .lookup .. | .name .. | .contains .. | .size .. | .entries .. => none

/-- Every registry of a family tracks what it was asked for. -/
def Tracked (family : SlotMap (KindRegistry K)) (h : String → History) : Prop :=
  ∀ on, (slot family on).Tracks (h on)

omit [NativeKind K] in
private theorem slot_insert (family : SlotMap (KindRegistry K)) (name other : String) (registry : KindRegistry K) :
    slot (family.insert name registry) other = if other = name then registry else slot family other := by
  rw [slot, SlotMap.find?_insert]
  split <;> rfl

variable {family : SlotMap (KindRegistry K)} {told : String → History}

private theorem Tracked.insert (tracked : Tracked family told) {registry : KindRegistry K} {history : History}
    (tracks : registry.Tracks history) (name : String) :
    Tracked (family.insert name registry) (Function.update told name history) := by
  intro other
  rw [slot_insert, Function.update_apply]
  split
  · exact tracks
  · exact tracked other

private theorem Tracked.step (tracked : Tracked family told) (s : Step) :
    Tracked (step family s).2 (asked told s) := by
  cases s with
  | register on value token =>
    cases found : (told on).first? value with
    | some first =>
      simp only [KindRegistry.step, (tracked on).register_known found]
      intro other
      rw [asked, Function.update_apply]
      split
      · next same =>
        subst same
        exact (tracked other).again (History.mem_values_of_first? found) token
      · exact tracked other
    | none =>
      obtain ⟨registry, registered, tracks⟩ :=
        (tracked on).register_new (History.first?_eq_none_iff.mp found) token
      simp only [KindRegistry.step, registered]
      exact tracked.insert tracks on
  | copy on target => exact tracked.insert (tracked on) target
  | lookup | name | contains | size | entries => exact tracked

private theorem tracked_foldl (tracked : Tracked family told) (steps : List Step) :
    Tracked (steps.foldl (fun family s => (step family s).2) family) (steps.foldl asked told) := by
  induction steps generalizing family told with
  | nil => exact tracked
  | cons s rest ih => exact ih (tracked.step s)

private theorem tracked_after (steps : List Step) :
    Tracked (after steps : SlotMap (KindRegistry K)) (histories steps) := by
  have begins : Tracked (.empty : SlotMap (KindRegistry K)) fun _ => [] := fun _ => empty_tracks
  exact tracked_foldl begins steps

/-- A step that fails leaves every registry as it is. -/
theorem step_of_error {s : Step} {e : Error} (failed : (step family s).1 = .error e) :
    (step family s).2 = family := by
  cases s with
  | register on value token =>
    cases registered : (slot family on).register value token with
    | error => simp only [step, registered]
    | ok => simp [step, registered] at failed
  | copy => cases failed
  | lookup | name | contains | size | entries => rfl

/-- A step changes one registry at most. -/
theorem slot_step (family : SlotMap (KindRegistry K)) {s : Step} {other : String}
    (apart : s.target? ≠ some other) : slot (step family s).2 other = slot family other := by
  cases s with
  | register on value token =>
    have different : other ≠ on := fun same => apart (congrArg some same.symm)
    cases registered : (slot family on).register value token with
    | error => simp only [step, registered]
    | ok => simp only [step, registered, slot_insert, if_neg different]
  | copy on target =>
    have different : other ≠ target := fun same => apart (congrArg some same.symm)
    simp only [step, slot_insert, if_neg different]
  | lookup | name | contains | size | entries => rfl

/-- The answers to steps are those to the first of them and then those to the rest, at what the first
left. -/
theorem run_append (family : SlotMap (KindRegistry K)) (earlier later : List Step) :
    run family (earlier ++ later) =
      run family earlier ++ run (earlier.foldl (fun family s => (step family s).2) family) later := by
  induction earlier generalizing family with
  | nil => rfl
  | cons s rest ih => rw [List.cons_append, run, run, ih]; rfl

private theorem length_run (family : SlotMap (KindRegistry K)) (steps : List Step) :
    (run family steps).length = steps.length := by
  induction steps generalizing family with
  | nil => rfl
  | cons s rest ih => rw [run, List.length_cons, List.length_cons, ih]

/-- What holds of a family of registries after steps from empty registries. -/
structure FamilyOfFirsts (K : Type) [NativeKind K] (steps : List Step) : Prop where
  /-- Each registry is the map of the first registrations that were asked of it. -/
  registries : ∀ on, (slot (after steps) on : KindRegistry K).HoldsFirsts (histories steps on)
  /-- A step that fails changes nothing. -/
  failure : ∀ s e, (step (after steps : SlotMap (KindRegistry K)) s).1 = .error e →
    (step (after steps : SlotMap (KindRegistry K)) s).2 = after steps
  /-- A copy is its source, and neither changes with the other from there on. -/
  copies : ∀ on target,
    slot (step (after steps) (.copy on target)).2 target = (slot (after steps) on : KindRegistry K)
  apart : ∀ s other, s.target? ≠ some other →
    slot (step (after steps) s).2 other = (slot (after steps) other : KindRegistry K)
  /-- The answers in a run are those that the registries give at that point. -/
  answers : ∀ s later, (run (SlotMap.empty : SlotMap (KindRegistry K)) (steps ++ s :: later))[steps.length]? =
    some (step (after steps) s).1

/-- Each step is tracked in the registry it is on and passes by the others, and a run is one step after the
other. -/
theorem registries_hold_firsts (K : Type) [NativeKind K] (steps : List Step) : FamilyOfFirsts K steps where
  registries on := (tracked_after steps on).holdsFirsts
  failure _ _ failed := step_of_error failed
  copies on target := by simp only [step, slot_insert, if_true]
  apart _ _ apart := slot_step _ apart
  answers s later := by
    rw [run_append, List.getElem?_append_right (length_run _ _).le, length_run, Nat.sub_self, run]
    rfl

/-- The second registration of an integer fails with the name of the first, also in a copy. -/
example : run (SlotMap.empty : SlotMap (KindRegistry Int32))
      [.register "a" 5 "DarkBlue", .copy "a" "b", .register "b" 5 "Navy", .register "b" 1 "Red", .contains "a" 1] =
    [.ok (.kind 5), .ok .done, .error (.duplicateKind 5 "DARK_BLUE"), .ok (.kind 1), .ok (.flag false)] := by
  rfl

end HandleGraph.KindRegistry
