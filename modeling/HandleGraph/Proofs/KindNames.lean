import HandleGraph.Proofs.Normalisation
import HandleGraph.Proofs.Registrations
import HandleGraph.Session.Step

/-! # Kinds by their names

Every builtin kind is registered, and the names of different kinds differ: without its underscores a name is
the enumerator in capitals, and no two enumerators agree in capitals. A value without a name is printed with a
parenthesis, which no name has. So what is printed of a kind tells which kind it is.
-/

namespace HandleGraph

/-! ## ASCII texts -/

namespace Text

/-- The bytes of a text are those that it is kept as. -/
theorem encode_eq (text : String) : encode text = text.toByteArray.data.toList := by
  conv_rhs => rw [← String.ofList_toList (s := text), String.toByteArray_ofList]
  exact List.toList_data_toByteArray.symm

/-- A character without bytes past ASCII is one byte. -/
theorem utf8EncodeChar_of_ascii {c : Char} (ascii : ∀ b ∈ String.utf8EncodeChar c, b < 0x80) :
    (String.utf8EncodeChar c).map (fun b => Char.ofNat b.toNat) = [c] := by
  have lead {n : Nat} {rest : Bytes} (low : 192 ≤ n) (high : n < 256)
      (all : ∀ b ∈ UInt8.ofNat n :: rest, b < 0x80) : False := by
    have small := all _ List.mem_cons_self
    rw [UInt8.lt_iff_toNat_lt, UInt8.toNat_ofNat_of_lt' high] at small
    exact absurd small (by change ¬ n < 128; omega)
  unfold String.utf8EncodeChar at ascii ⊢
  dsimp only at ascii ⊢
  split at ascii
  next one =>
    rw [if_pos one, List.map_singleton, UInt8.toNat_ofNat_of_lt' (by change _ < 256; omega)]
    exact congrArg (fun c => [c]) (Char.ofNat_toNat c)
  next =>
    split at ascii
    next => exact (lead (by omega) (by omega) ascii).elim
    next =>
      split at ascii
      next => exact (lead (by omega) (by omega) ascii).elim
      next => exact (lead (by omega) (by omega) ascii).elim

/-- A text without bytes past ASCII is read byte by byte. -/
theorem toList_eq_of_ascii {text : String} (ascii : ∀ b ∈ encode text, b < 0x80) :
    text.toList = (encode text).map fun b => Char.ofNat b.toNat := by
  unfold encode at ascii ⊢
  generalize text.toList = chars at ascii ⊢
  induction chars with
  | nil => rfl
  | cons c rest ih =>
    rw [List.flatMap_cons] at ascii ⊢
    rw [List.map_append, utf8EncodeChar_of_ascii fun b member => ascii b (List.mem_append_left _ member),
      ← ih fun b member => ascii b (List.mem_append_right _ member)]
    rfl

/-- What holds of every ASCII character. -/
theorem of_ascii {P : Char → Prop} (all : ∀ n < 0x80, P (Char.ofNat n)) {c : Char} (ascii : c.toNat < 0x80) :
    P c := by
  rw [← Char.ofNat_toNat c]
  exact all c.toNat ascii

private theorem toNat_ofNat {n : Nat} (valid : n.isValidChar) : (Char.ofNat n).toNat = n := by
  rw [Char.ofNat, dif_pos valid]
  rfl

private theorem ascii_of_isAlphanum {c : Char} (plain : c.isAlphanum = true) : c.toNat < 0x80 := by
  change (decide ('A'.val ≤ c.val ∧ c.val ≤ 'Z'.val) || (decide ('a'.val ≤ c.val) && decide (c.val ≤ 'z'.val)) ||
    (decide ('0'.val ≤ c.val) && decide (c.val ≤ '9'.val))) = true at plain
  simp only [Bool.or_eq_true, Bool.and_eq_true, decide_eq_true_eq, UInt32.le_iff_toNat_le] at plain
  have code : c.toNat = c.val.toNat := rfl
  have capitals : 'Z'.val.toNat = 90 := rfl
  have smalls : 'z'.val.toNat = 122 := rfl
  have digits : '9'.val.toNat = 57 := rfl
  omega

end Text

/-! ## Names of letters and digits -/

namespace KindName

/-- The capital of an ASCII letter or digit is another one. -/
theorem capital_of_isAlphanum {c : Char} (plain : c.isAlphanum = true) :
    capital c = [c.toUpper] ∧ c.toUpper.isAlphanum = true :=
  Text.of_ascii (P := fun c => c.isAlphanum = true → capital c = [c.toUpper] ∧ c.toUpper.isAlphanum = true)
    (by decide +kernel) (Text.ascii_of_isAlphanum plain) plain

section Letters

variable {chars : List Char}

/-- Without its underscores a name is the token in capitals. -/
theorem filter_spell (plain : ∀ c ∈ chars, c.isAlphanum = true) :
    (spell chars).filter (· != '_') = chars.map Char.toUpper := by
  have letter : ∀ place ∈ chars.zipIdx, (piece chars place.2 place.1).filter (· != '_') = [place.1.toUpper] := by
    rintro ⟨c, i⟩ member
    obtain ⟨upper, stays⟩ := capital_of_isAlphanum (plain c (List.fst_mem_of_mem_zipIdx member))
    have different : c.toUpper ≠ '_' := fun same => by rw [same] at stays; exact absurd stays (by decide)
    have none : (if Parted chars i c then ['_'] else []).filter (· != '_') = [] := by split <;> rfl
    rw [piece, List.filter_append, none, upper, List.nil_append, List.filter_cons_of_pos (by simpa using different),
      List.filter_nil]
  calc (spell chars).filter (· != '_')
    _ = (chars.zipIdx.map fun place => (piece chars place.2 place.1).filter (· != '_')).flatten := by
      rw [spell, List.filter_flatMap]; exact List.flatMap_def
    _ = (chars.zipIdx.map fun place => [place.1.toUpper]).flatten := by rw [List.map_congr_left letter]
    _ = (chars.zipIdx.map Prod.fst).map Char.toUpper := by
      rw [List.map_map, ← List.flatMap_def]; exact List.map_eq_flatMap.symm
    _ = chars.map Char.toUpper := by rw [List.zipIdx_map_fst]

private theorem isAlphanum_of_mem_spell (plain : ∀ c ∈ chars, c.isAlphanum = true) {x : Char}
    (member : x ∈ spell chars) :
    x = '_' ∨ x.isAlphanum = true := by
  rcases mem_spell member with underscore | ⟨c, inside, letter⟩
  · exact .inl underscore
  · obtain ⟨upper, stays⟩ := capital_of_isAlphanum (plain c inside)
    rw [upper] at letter
    exact .inr (List.mem_singleton.mp letter ▸ stays)

end Letters

private theorem toList_normalize (token : String) : (normalize token).toList = spell token.toList := by
  rw [normalize, String.toList_ofList, scan_start]

/-- Tokens of letters and digits with the same name differ in the case of letters at most. -/
theorem map_toUpper_eq {token other : String} (plain : ∀ c ∈ token.toList, c.isAlphanum = true)
    (plain' : ∀ c ∈ other.toList, c.isAlphanum = true) (same : normalize token = normalize other) :
    token.toList.map Char.toUpper = other.toList.map Char.toUpper := by
  rw [← filter_spell plain, ← filter_spell plain', ← toList_normalize, ← toList_normalize, same]

end KindName

/-! ## Registering a table -/

namespace KindRegistry

/-- Where every value comes once, all registrations come first. -/
theorem History.firsts_eq_self {h : History} (once : h.values.Nodup) : h.firsts = h := by
  apply h.firsts_sublist.eq_of_length
  rw [h.length_firsts, List.toFinset_card_of_nodup once, History.values, List.length_map]

/-- New values are registered one after another, to the end. -/
theorem Tracks.registerAll {K : Type} [NativeKind K] {r : KindRegistry K} {h table : History} (tracks : r.Tracks h)
    (once : (History.values (h ++ table)).Nodup) :
    ∃ after, r.registerAll table = .ok after ∧ after.Tracks (h ++ table) := by
  induction table generalizing r h with
  | nil => exact ⟨r, rfl, by rwa [List.append_nil]⟩
  | cons entry rest ih =>
    obtain ⟨value, token⟩ := entry
    have new : value ∉ h.values := by
      rw [History.values, List.map_append, List.nodup_append] at once
      exact fun known => once.2.2 value known value List.mem_cons_self rfl
    obtain ⟨next, registered, tracks⟩ := tracks.register_new new token
    rw [← List.singleton_append, ← List.append_assoc] at once ⊢
    obtain ⟨after, rest, tracks⟩ := ih tracks once
    refine ⟨after, ?_, tracks⟩
    rw [List.singleton_append, KindRegistry.registerAll, registered]
    exact rest

end KindRegistry

/-! ## The builtin table -/

namespace Builtin

private theorem values_nodup : (KindRegistry.History.values kinds).Nodup := by
  have ascending : (kinds.map (·.1)).IsChain (· < ·) := by decide +kernel
  exact ascending.pairwise.imp Int32.ne_of_lt

/-- The characters of an ASCII text, which are quickly found from its bytes. -/
def letters (token : String) : List Char := token.toByteArray.data.toList.map fun b => Char.ofNat b.toNat

private theorem letters_isAlphanum : ∀ entry ∈ kinds, ∀ c ∈ letters entry.2, c.isAlphanum = true := by
  have all : (kinds.all fun entry => (letters entry.2).all Char.isAlphanum) = true := by decide +kernel
  simpa only [List.all_eq_true] using all

private theorem letters_eq {entry : Int32 × String} (listed : entry ∈ kinds) : letters entry.2 = entry.2.toList := by
  rw [Text.toList_eq_of_ascii, Text.encode_eq, letters]
  intro b member
  rw [Text.encode_eq] at member
  have plain := letters_isAlphanum entry listed _ (List.mem_map_of_mem member)
  have ascii := Text.ascii_of_isAlphanum plain
  rwa [Text.toNat_ofNat (.inl (Nat.lt_trans b.toNat_lt (by decide)))] at ascii

private theorem isAlphanum_of_mem_toList {entry : Int32 × String} (listed : entry ∈ kinds) :
    ∀ c ∈ entry.2.toList, c.isAlphanum = true :=
  letters_eq listed ▸ letters_isAlphanum entry listed

/-- Numbers are all different when those with the same remainder are. -/
theorem nodup_of_remainders {l : List Nat} {m : Nat} (pos : 0 < m)
    (apart : ∀ r < m, (l.filter (· % m == r)).Nodup) : l.Nodup := by
  rw [List.nodup_iff_count_le_one]
  intro n
  have once := List.nodup_iff_count_le_one.mp (apart (n % m) (Nat.mod_lt n pos)) n
  rwa [List.count_filter (by simp)] at once

/-- A number in place of characters, for quick comparisons. -/
def fingerprint (chars : List Char) : Nat := chars.foldl (fun n c => n * 129 + c.toNat) 0

/-- No two enumerators agree in capitals. -/
theorem fingerprints_nodup : (kinds.map fun entry => fingerprint ((letters entry.2).map Char.toUpper)).Nodup :=
  nodup_of_remainders (m := 16) (by decide) (by decide +kernel)

/-- The names of different kinds differ. -/
theorem eq_of_normalize {entry other : Int32 × String} (listed : entry ∈ kinds) (listed' : other ∈ kinds)
    (same : KindName.normalize entry.2 = KindName.normalize other.2) : entry = other := by
  apply List.inj_on_of_nodup_map fingerprints_nodup listed listed'
  rw [letters_eq listed, letters_eq listed',
    KindName.map_toUpper_eq (isAlphanum_of_mem_toList listed) (isAlphanum_of_mem_toList listed') same]

/-- No name has a parenthesis. -/
theorem not_mem_normalize {entry : Int32 × String} (listed : entry ∈ kinds) :
    '(' ∉ (KindName.normalize entry.2).toList := by
  rw [KindName.toList_normalize]
  intro inside
  rcases KindName.isAlphanum_of_mem_spell (isAlphanum_of_mem_toList listed) inside with underscore | plain
  · cases underscore
  · cases plain

end Builtin

/-! ## Cursor kinds -/

namespace CursorKind

open KindRegistry

private theorem registry_tracks : registry.Tracks Builtin.kinds := by
  obtain ⟨after, registered, tracks⟩ : ∃ after : KindRegistry CursorKind,
      empty.registerAll Builtin.kinds = .ok after ∧ after.Tracks Builtin.kinds :=
    empty_tracks.registerAll Builtin.values_nodup
  unfold registry
  simp only [registered]
  exact tracks

/-- The registry lists the whole table, in its order. -/
theorem registry_entries :
    registry.entries = Builtin.kinds.map fun entry => ⟨⟨entry.1⟩, KindName.normalize entry.2⟩ := by
  rw [registry_tracks.entries, History.firsts_eq_self Builtin.values_nodup]
  exact List.map_congr_left fun _ _ => rfl

/-- What the registry knows of a kind: its name, which its enumerator gives, or nothing at all. -/
inductive Standing (k : CursorKind) : Prop
  | registered (token : String) (listed : (k.value, token) ∈ Builtin.kinds) (found : ofValue? k.value = .ok k)
      (named : k.name = .ok (KindName.normalize token))
  | unknown (missing : ofValue? k.value = .error (.unknownKind k.value))
      (nameless : k.name = .error (.unknownKind k.value))

private theorem standing (k : CursorKind) : k.Standing := by
  have holds := registry_tracks.holdsFirsts
  have looked : ofValue? k.value = _ := holds.lookup k.value
  cases found : History.first? Builtin.kinds k.value with
  | some first =>
    have value : first.1 = k.value := History.value_of_first? found
    rw [if_pos (History.mem_values_of_first? found)] at looked
    have listed := List.mem_of_find?_eq_some found
    exact .registered first.2 (value ▸ listed) looked (holds.name k first found)
  | none =>
    have absent := History.first?_eq_none_iff.mp found
    rw [if_neg absent] at looked
    exact .unknown looked (holds.nameless k absent)

private theorem not_mem_repr {c : Char} (other : c.isDigit = false) (n : Nat) : c ∉ n.repr.toList := by
  rw [Nat.toList_repr]
  intro inside
  have digit := Nat.isDigit_of_mem_toDigits (by decide) (by decide) inside
  rw [other] at digit
  cases digit

private theorem repr_injective : Function.Injective Nat.repr := by
  intro m n same
  have digits : Nat.toDigits 10 m = Nat.toDigits 10 n := by rw [← Nat.toList_repr, same, Nat.toList_repr]
  simpa only [Nat.ofDigitChars_ten_toDigits] using congrArg (Nat.ofDigitChars 10 · 0) digits

/-- Whole numbers are told apart by what is printed of them. -/
theorem printed_injective {a b : Int} (same : toString a = toString b) : a = b := by
  have unsigned (n m : Nat) : n.repr ≠ "-" ++ m.repr := by
    intro same
    have sign : '-' ∈ n.repr.toList := by
      rw [same, String.toList_append]
      exact List.mem_append_left _ (by decide)
    exact not_mem_repr rfl n sign
  rw [Int.toString_eq_repr, Int.toString_eq_repr, Int.repr_eq_if, Int.repr_eq_if] at same
  split at same <;> split at same
  · have values := repr_injective same
    omega
  · exact absurd same (unsigned _ _)
  · exact absurd same.symm (unsigned _ _)
  · have values := repr_injective ((String.append_right_inj _).mp same)
    omega

/-- What is printed of a value without a name. -/
def unnamed (value : Int32) : String := "UNKNOWN(" ++ toString value.toInt ++ ")"

private theorem unnamed_injective : Function.Injective unnamed := by
  intro a b same
  have digits := (String.append_right_inj _).mp ((String.append_left_inj _).mp same)
  exact Int32.toInt_inj.mp (printed_injective digits)

private theorem mem_unnamed (value : Int32) : '(' ∈ (unnamed value).toList := by
  rw [unnamed, String.toList_append, String.toList_append]
  exact List.mem_append_left _ (List.mem_append_left _ (by decide))

private theorem normalize_ne_unnamed {entry : Int32 × String} (listed : entry ∈ Builtin.kinds) (value : Int32) :
    KindName.normalize entry.2 ≠ unnamed value :=
  fun same => Builtin.not_mem_normalize listed (same ▸ mem_unnamed value)

/-- Printing looks at the name alone. The body of `describe` is taken as it stands, because comparing it with a
copy would evaluate the whole registry. -/
theorem describe_reads_name : ∃ print, describe = print ∧ (∀ k name, k.name = .ok name → print k = name) ∧
    ∀ k e, k.name = .error e → print k = unnamed k.value := by
  refine ⟨_, by delta describe; exact rfl, fun k name named => ?_, fun k e nameless => ?_⟩
  · simp only [named]
  · simp only [nameless, unnamed]

section Printing

variable {k : CursorKind}

private theorem describe_of_named {name : String} (named : k.name = .ok name) : k.describe = name := by
  obtain ⟨print, body, reads, -⟩ := describe_reads_name
  rw [body, reads k name named]

private theorem describe_of_nameless {e : Error} (nameless : k.name = .error e) : k.describe = unnamed k.value := by
  obtain ⟨print, body, -, reads⟩ := describe_reads_name
  rw [body, reads k e nameless]

end Printing

/-- A kind that is found is printed by its name. -/
theorem name_eq_describe {value : Int32} {k : CursorKind} (found : ofValue? value = .ok k) :
    k.name = .ok k.describe := by
  cases (mk value).standing with
  | registered token _ found' named =>
    obtain rfl : k = mk value := Except.ok.inj (found.symm.trans found')
    rw [named, describe_of_named named]
  | unknown missing _ => cases found.symm.trans missing

/-- Different kinds are printed differently. -/
theorem describe_injective : Function.Injective describe := by
  intro a b same
  cases a.standing with
  | registered token listed _ named =>
    rw [describe_of_named named] at same
    cases b.standing with
    | registered token' listed' _ named' =>
      rw [describe_of_named named'] at same
      have entries := Builtin.eq_of_normalize listed listed' same
      exact congrArg (fun entry => CursorKind.mk entry.1) entries
    | unknown _ nameless' =>
      rw [describe_of_nameless nameless'] at same
      exact absurd same (normalize_ne_unnamed listed _)
  | unknown _ nameless =>
    rw [describe_of_nameless nameless] at same
    cases b.standing with
    | registered token' listed' _ named' =>
      rw [describe_of_named named'] at same
      exact absurd same.symm (normalize_ne_unnamed listed' _)
    | unknown _ nameless' =>
      rw [describe_of_nameless nameless'] at same
      exact congrArg CursorKind.mk (unnamed_injective same)

private theorem debug_injective : Function.Injective debug := fun _ _ same =>
  describe_injective ((String.append_right_inj _).mp same)

end CursorKind

/-! ## Cursors and their kinds -/

namespace Cursor

open CursorKind

variable {σ τ : Type}

/-- Finding a kind and then its name takes nothing from the world. -/
theorem run_settleKind {found : Except Error CursorKind} {naming : CursorKind → Except Error String}
    {printed : CursorKind → String} (agree : ∀ k, found = .ok k → naming k = .ok (printed k)) (f : Focus σ) :
    (do let kind ← Question.ask.settleKind found
        return ⟨.kind kind (← Question.ask.settleKind (naming kind)), none⟩ : Inspect σ Outcome).run f =
      (found.map fun kind => ⟨.kind kind (printed kind), none⟩, f) := by
  cases found with
  | error e => rfl
  | ok kind =>
    change (do return ⟨.kind kind (← Question.ask.settleKind (naming kind)), none⟩ : Inspect σ Outcome).run f = _
    rw [agree kind rfl]
    rfl

/-- A cursor answers with the kind of its integer and what is printed of it, or not at all, and asking leaves no
trace. -/
theorem ask_kind (E : Engine σ) (c : Cursor) (w : World σ) :
    (Question.kind.ask E).run ⟨c, w⟩ =
      ((ofValue? c.raw.kind).map fun k => ⟨.kind k k.describe, none⟩, ⟨c, w⟩) := by
  have receives {α : Type} (work : Cursor → Inspect σ α) (f : Focus σ) :
      (Inspect.receiver >>= work).run f = (work f.cursor).run f := rfl
  simp only [Question.ask]
  rw [receives]
  exact run_settleKind (fun k found => name_eq_describe found) ⟨c, w⟩

private theorem comma_not_mem_toString (n : Int) : ',' ∉ (toString n).toList := by
  rw [Int.toString_eq_repr, Int.repr_eq_if]
  split
  · exact not_mem_repr rfl _
  · rw [String.toList_append, List.mem_append, not_or]
    exact ⟨by decide, not_mem_repr rfl _⟩

/-- The kind of a cursor in a debugging text stands before the first comma. -/
theorem takeWhile_describe {c : Cursor} (real : c.isNull = false) (w : World σ) :
    (c.describe w).toList.takeWhile (· != ',') = ("Cursor \x7b kind: " ++ toString c.raw.kind.toInt).toList := by
  have before : ∀ x ∈ ("Cursor \x7b kind: " ++ toString c.raw.kind.toInt).toList, (x != ',') = true := by
    intro x member
    rw [bne_iff_ne]
    rintro rfl
    rw [String.toList_append, List.mem_append] at member
    exact member.elim (by decide) (comma_not_mem_toString _)
  have comma : (", stale: ").toList = ',' :: " stale: ".toList := by decide
  have shown : (c.describe w).toList = ("Cursor \x7b kind: " ++ toString c.raw.kind.toInt).toList ++
      ',' :: (" stale: ".toList ++ (toString (c.isStale w)).toList ++ (", .. \x7d").toList) := by
    rw [describe, if_neg (by rw [real]; exact Bool.false_ne_true)]
    simp only [String.toList_append, comma, List.append_assoc, List.cons_append]
  rw [shown, List.takeWhile_append_of_pos before, List.takeWhile_cons_of_neg (by decide), List.append_nil]

/-- Cursors with one debugging text have one kind. -/
theorem kind_eq_of_describe {c d : Cursor} {w : World σ} {v : World τ} (real : c.isNull = false)
    (real' : d.isNull = false) (same : c.describe w = d.describe v) : c.raw.kind = d.raw.kind := by
  have heads := takeWhile_describe real w
  rw [same, takeWhile_describe real' v, String.toList_inj, String.append_right_inj] at heads
  exact (Int32.toInt_inj.mp (printed_injective heads)).symm

end Cursor

/-! ## What is printed of a value -/

namespace CursorKind

/-- What is printed of a kind says which kind it is. -/
structure IdentifiedByName (value : Int32) : Prop where
  /-- All builtin kinds are registered, in order and by the names that their enumerators give. -/
  listed : registry.entries = Builtin.kinds.map fun entry => ⟨⟨entry.1⟩, KindName.normalize entry.2⟩
  /-- Texts agree for equal values only. -/
  display_iff : ∀ other, (mk value).describe = (mk other).describe ↔ value = other
  debug_iff : ∀ other, (mk value).debug = (mk other).debug ↔ value = other
  /-- A value has a kind just when that kind has a name. -/
  found_iff_named : (∃ k, ofValue? value = .ok k) ↔ ∃ name, (mk value).name = .ok name
  /-- The kind found is the one of the value, and it is printed by its name. -/
  named : ∀ name, (mk value).name = .ok name → ofValue? value = .ok (mk value) ∧ (mk value).describe = name
  /-- Without a name both fail with the value, which is printed in its place. -/
  nameless : (¬ ∃ name, (mk value).name = .ok name) →
    ofValue? value = .error (.unknownKind value) ∧ (mk value).name = .error (.unknownKind value) ∧
      (mk value).describe = "UNKNOWN(" ++ toString value.toInt ++ ")"
  /-- No registered name looks like a value without one. -/
  apart : ∀ entry ∈ registry.entries, entry.name ≠ "UNKNOWN(" ++ toString value.toInt ++ ")"
  /-- A cursor of any engine answers with the kind of its integer and what is printed of that kind, or fails as the
  value does. Nothing is asked of the engine and nothing changes. -/
  asked : ∀ {σ : Type} (E : Engine σ) (c : Cursor) (w : World σ), c.raw.kind = value →
    (Question.kind.ask E).run ⟨c, w⟩ = ((ofValue? value).map fun k => ⟨.kind k k.describe, none⟩, ⟨c, w⟩)
  /-- A cursor printed like one with the value has the value itself. -/
  shown : ∀ {σ τ : Type} (c d : Cursor) (w : World σ) (v : World τ), c.isNull = false → d.isNull = false →
    c.raw.kind = value → d.describe v = c.describe w → d.raw.kind = value

/-- The names of the builtin table are apart from each other and from what is printed of a value without one, so
what is printed of a kind tells its value. -/
theorem printed_name_identifies (value : Int32) : IdentifiedByName value where
  listed := registry_entries
  display_iff other := by
    constructor
    · exact fun same => congrArg CursorKind.value (describe_injective same)
    · exact congrArg fun v => (mk v).describe
  debug_iff other := by
    constructor
    · exact fun same => congrArg CursorKind.value (debug_injective same)
    · exact congrArg fun v => (mk v).debug
  found_iff_named := by
    cases (mk value).standing with
    | registered token _ found named => exact ⟨fun _ => ⟨_, named⟩, fun _ => ⟨_, found⟩⟩
    | unknown missing nameless =>
      constructor
      · rintro ⟨k, found⟩
        cases found.symm.trans missing
      · rintro ⟨name, named⟩
        cases named.symm.trans nameless
  named name named := by
    cases (mk value).standing with
    | registered token _ found _ => exact ⟨found, describe_of_named named⟩
    | unknown _ nameless => cases named.symm.trans nameless
  nameless none := by
    cases (mk value).standing with
    | registered token _ _ named => exact absurd ⟨_, named⟩ none
    | unknown missing nameless => exact ⟨missing, nameless, describe_of_nameless nameless⟩
  apart entry member := by
    rw [registry_entries] at member
    obtain ⟨listed, inside, rfl⟩ := List.mem_map.mp member
    exact normalize_ne_unnamed inside value
  asked E c w := by
    rintro rfl
    exact Cursor.ask_kind E c w
  shown c d w v real real' := by
    rintro rfl same
    exact Cursor.kind_eq_of_describe real' real same

end CursorKind

end HandleGraph
