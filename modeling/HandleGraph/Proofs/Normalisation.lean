import HandleGraph.Kind.Name

/-! # Names position by position

What is written for a character of a token depends on the characters next to it alone, and on whether a
compound word ends with it or just before it. The scan carries a context and passes over compound words
at once; both come to the same name, since compound words do not overlap and the context is always the
one that the characters before the scan's place have.

From the name position by position it follows that a name has no parts of its own: the name of a name is
that name, unless it has letters without capitals.
-/

namespace HandleGraph.KindName

open Text

/-- The word `ObjC` stands at a position, and no small letter comes after it. -/
def CompoundAt (chars : List Char) (i : Nat) : Prop :=
  (chars.drop i).take 4 = ['O', 'b', 'j', 'C'] ∧ chars[i + 4]?.any isLowercase = false

instance (chars : List Char) (i : Nat) : Decidable (CompoundAt chars i) :=
  inferInstanceAs (Decidable (_ ∧ _))

/-- An underscore goes before the character `c` at a position: it is a capital and not the first character,
no compound word ends with it, and there is a small letter before it or after it, or a compound word ends
just before it. -/
def Parted (chars : List Char) (i : Nat) (c : Char) : Prop :=
  0 < i ∧ isUppercase c = true ∧ ¬ (3 ≤ i ∧ CompoundAt chars (i - 3)) ∧
    (chars[i - 1]?.any isLowercase = true ∨ chars[i + 1]?.any isLowercase = true ∨
      4 ≤ i ∧ CompoundAt chars (i - 4))

instance (chars : List Char) (i : Nat) (c : Char) : Decidable (Parted chars i c) :=
  inferInstanceAs (Decidable (_ ∧ _ ∧ _ ∧ _))

def capital (c : Char) : List Char := if isUppercase c then [c] else upper c

def piece (chars : List Char) (i : Nat) (c : Char) : List Char :=
  (if Parted chars i c then ['_'] else []) ++ capital c

/-- The name spelt by a token, position by position. -/
def spell (chars : List Char) : List Char :=
  chars.zipIdx.flatMap fun (c, i) => piece chars i c

/-- What the characters before a position tell a scan that stands there. -/
def contextAt (chars : List Char) (i : Nat) : Context :=
  match i with
  | 0 => .start
  | i + 1 =>
    if 3 ≤ i ∧ CompoundAt chars (i - 3) then .afterCompound
    else if chars[i]?.any isLowercase then .afterSmall else .afterOther

/-- No compound word goes across a position. -/
def Between (chars : List Char) (i : Nat) : Prop :=
  ∀ start < i, i < start + 4 → ¬ CompoundAt chars start

section Places

variable {before rest : List Char} {c : Char}

private theorem here : (before ++ c :: rest)[before.length]? = some c := by simp

private theorem ahead (k : Nat) : (before ++ rest)[before.length + k]? = rest[k]? := by
  rw [List.getElem?_append_right (Nat.le_add_right ..), Nat.add_sub_cancel_left]

private theorem smallFollows_eq : smallFollows rest = rest[0]?.any isLowercase := by
  rw [smallFollows, List.head?_eq_getElem?]

/-- A compound word at the place of the scan is the one that the scan sees. -/
theorem compoundAt_append :
    CompoundAt (before ++ rest) before.length ↔
      ∃ later, rest = 'O' :: 'b' :: 'j' :: 'C' :: later ∧ smallFollows later = false := by
  rw [CompoundAt, List.drop_left, ahead]
  constructor
  · rintro ⟨word, after⟩
    refine ⟨rest.drop 4, ?_, ?_⟩
    · exact (List.take_append_drop 4 rest).symm.trans (by rw [word]; rfl)
    · rw [smallFollows_eq, List.getElem?_drop]
      exact after
  · rintro ⟨later, rfl, after⟩
    exact ⟨rfl, by rw [← after, smallFollows_eq]; rfl⟩

/-- A compound word starts with `O`. -/
theorem CompoundAt.head {chars : List Char} {i : Nat} (compound : CompoundAt chars i) :
    chars[i]? = some 'O' := by
  have head := congrArg (·[0]?) compound.1
  rwa [List.getElem?_take_of_lt (by decide), List.getElem?_drop] at head

end Places

section Scan

variable {before rest : List Char} {c : Char}

/-- Where no compound word goes across, the context and the characters ahead tell whether the capital
there is parted from what comes before. -/
theorem breaksBefore_iff (between : Between (before ++ c :: rest) before.length)
    (isUpper : isUppercase c = true) :
    breaksBefore (contextAt (before ++ c :: rest) before.length) rest = true ↔
      Parted (before ++ c :: rest) before.length c := by
  have next : (before ++ c :: rest)[before.length + 1]?.any isLowercase = smallFollows rest := by
    rw [ahead, smallFollows_eq]; rfl
  rw [Parted, next]
  generalize before ++ c :: rest = chars at *
  rcases place : before.length with _ | i <;> rw [place] at between
  · simp [contextAt, breaksBefore]
  · have notFinal : ¬ (3 ≤ i + 1 ∧ CompoundAt chars (i + 1 - 3)) := fun ⟨far, compound⟩ =>
      between _ (by omega) (by omega) compound
    have back : (4 ≤ i + 1 ∧ CompoundAt chars (i + 1 - 4)) = (3 ≤ i ∧ CompoundAt chars (i - 3)) := by
      rw [show i + 1 - 4 = i - 3 by omega, propext (show 4 ≤ i + 1 ↔ 3 ≤ i by omega)]
    simp only [isUpper, notFinal, Nat.zero_lt_succ, true_and, not_false_eq_true, contextAt, back,
      Nat.add_sub_cancel]
    by_cases compound : 3 ≤ i ∧ CompoundAt chars (i - 3)
    · simp [breaksBefore, compound]
    · rw [if_neg compound]
      by_cases small : chars[i]?.any isLowercase <;> simp [breaksBefore, compound, small]

/-- A character outside compound words. -/
theorem emit_eq_piece (between : Between (before ++ c :: rest) before.length) :
    emit (contextAt (before ++ c :: rest) before.length) c rest =
      piece (before ++ c :: rest) before.length c := by
  rw [emit, piece, capital]
  by_cases isUpper : isUppercase c
  · rw [if_pos isUpper, if_pos isUpper]
    by_cases parted : Parted (before ++ c :: rest) before.length c
    · rw [if_pos parted, if_pos ((breaksBefore_iff between isUpper).mpr parted)]
      rfl
    · rw [if_neg parted, if_neg (mt (breaksBefore_iff between isUpper).mp parted)]
      rfl
  · rw [if_neg isUpper, if_neg isUpper, if_neg fun parted : Parted .. => isUpper parted.2.1]
    rfl

/-- The context after a character outside compound words. -/
theorem contextAfter_eq (between : Between (before ++ c :: rest) before.length) :
    contextAfter c = contextAt (before ++ c :: rest) (before.length + 1) := by
  rw [contextAt, if_neg fun ⟨far, compound⟩ => between _ (by omega) (by omega) compound, here]
  rfl

/-- One character further on, where no compound word starts. -/
theorem Between.succ (between : Between (before ++ c :: rest) before.length)
    (simple : ¬ CompoundAt (before ++ c :: rest) before.length) :
    Between (before ++ c :: rest) (before.length + 1) := by
  intro start behind across
  rcases Nat.lt_succ_iff_lt_or_eq.mp behind with behind | rfl
  · exact between start behind (by omega)
  · exact simple

variable {later : List Char}

/-- No compound word goes across the end of the letters of another. -/
theorem between_compound :
    Between (before ++ 'O' :: 'b' :: 'j' :: 'C' :: later) (before.length + 4) := by
  intro start behind across other
  have head := other.head
  have inside : start = before.length + 1 ∨ start = before.length + 2 ∨ start = before.length + 3 := by
    omega
  rcases inside with rfl | rfl | rfl <;> rw [ahead] at head <;> cases head

/-- What is written for the letters of a compound word. -/
theorem pieces_compound (unbroken : smallFollows later = false)
    (between : Between (before ++ 'O' :: 'b' :: 'j' :: 'C' :: later) before.length) :
    (['O', 'b', 'j', 'C'].zipIdx before.length).flatMap
        (fun (c, i) => piece (before ++ 'O' :: 'b' :: 'j' :: 'C' :: later) i c) =
      (if contextAt (before ++ 'O' :: 'b' :: 'j' :: 'C' :: later) before.length = .start then [] else ['_']) ++
        ['O', 'B', 'J', 'C'] := by
  have compound : CompoundAt (before ++ 'O' :: 'b' :: 'j' :: 'C' :: later) before.length :=
    compoundAt_append.mpr ⟨later, rfl, unbroken⟩
  have first := emit_eq_piece between
  generalize before ++ 'O' :: 'b' :: 'j' :: 'C' :: later = chars at *
  have b : piece chars (before.length + 1) 'b' = ['B'] := by
    rw [piece, if_neg fun parted : Parted .. => absurd parted.2.1 (by decide)]; rfl
  have j : piece chars (before.length + 2) 'j' = ['J'] := by
    rw [piece, if_neg fun parted : Parted .. => absurd parted.2.1 (by decide)]; rfl
  have C : piece chars (before.length + 3) 'C' = ['C'] := by
    rw [piece, if_neg fun parted : Parted .. => parted.2.2.1 ⟨by omega, compound⟩]; rfl
  have O : piece chars before.length 'O' =
      (if contextAt chars before.length = .start then [] else ['_']) ++ ['O'] := by
    rw [← first]
    cases contextAt chars before.length <;> rfl
  simp only [List.zipIdx_cons, List.zipIdx_nil, List.flatMap_cons, List.flatMap_nil, O, b, j, C]
  simp

/-- Where no compound word starts, the scan goes on by one character. -/
theorem scan_cons_of_not_compound (context : Context)
    (simple : ¬ CompoundAt (before ++ c :: rest) before.length) :
    scan context (c :: rest) = emit context c rest ++ scan (contextAfter c) rest := by
  rw [compoundAt_append] at simple
  by_cases word : ∃ later, c :: rest = 'O' :: 'b' :: 'j' :: 'C' :: later
  · obtain ⟨later, same⟩ := word
    cases same
    rw [scan, if_pos (by simpa using simple)]
  · rw [scan]
    rintro later rfl rfl
    exact word ⟨later, rfl⟩

/-- From a place where no compound word goes across, with the context of that place, the scan writes what
each position asks for. -/
theorem scan_eq (before rest : List Char) (between : Between (before ++ rest) before.length) :
    scan (contextAt (before ++ rest) before.length) rest =
      (rest.zipIdx before.length).flatMap fun (c, i) => piece (before ++ rest) i c := by
  -- The scan goes on by a compound word or by one character, to a place of the same kind.
  match rest with
  | [] => rfl
  | c :: after =>
    by_cases compound : CompoundAt (before ++ c :: after) before.length
    · obtain ⟨later, word, unbroken⟩ := compoundAt_append.mp compound
      rw [word] at compound between ⊢
      have context : contextAt (before ++ 'O' :: 'b' :: 'j' :: 'C' :: later) (before.length + 4) =
          .afterCompound := by
        rw [contextAt, if_pos ⟨by omega, compound⟩]
      have ih := scan_eq (before ++ ['O', 'b', 'j', 'C']) later (by simpa using between_compound)
      simp only [List.append_assoc, List.cons_append, List.nil_append, List.length_append, List.length_cons,
        List.length_nil, Nat.zero_add, Nat.reduceAdd, context] at ih
      rw [scan, if_neg (by rw [unbroken]; decide), ih, ← pieces_compound unbroken between,
        ← List.flatMap_append]
      rfl
    · have ih := scan_eq (before ++ [c]) after (by simpa using between.succ compound)
      simp only [List.append_assoc, List.singleton_append, List.length_append, List.length_singleton] at ih
      rw [scan_cons_of_not_compound _ compound, List.zipIdx_cons, List.flatMap_cons, emit_eq_piece between,
        contextAfter_eq between, ih]
termination_by rest.length
decreasing_by
  · simp only [word, List.length_cons]; omega
  · simp only [List.length_cons]; omega

end Scan

/-- The name that the scan spells is written position by position: before each character there is an
underscore or none, as its neighbours tell, and then the character in capitals. No capital is a small letter
too, so the neighbours tell it apart. -/
theorem normalize_eq_spell (token : String) :
    normalize token = String.ofList (spell token.toList) ∧
      ∀ c, ¬ (isUppercase c = true ∧ isLowercase c = true) := by
  refine ⟨?_, fun c ⟨isUpper, isLower⟩ => ?_⟩
  · have start : Between ([] ++ token.toList) 0 := fun _ behind => nomatch behind
    exact congrArg String.ofList (scan_eq [] token.toList start)
  · rw [isLowercase_eq_false_of_isUppercase isUpper] at isLower
    cases isLower

example : spell "fooObjCBarObjCs".toList = "FOO_OBJC_BAR_OBJ_CS".toList := by decide

/-! ## Names of names

A name consists of capitals, underscores and whatever else has no small letters. Such a text has no parts, so
the name of it is the text itself.
-/

/-- A character that stays as it is in a name: it is no small letter, and its own capital. -/
def Settled (c : Char) : Prop := isLowercase c = false ∧ capital c = [c]

instance (c : Char) : Decidable (Settled c) :=
  inferInstanceAs (Decidable (_ ∧ _))

private theorem settled_underscore : Settled '_' := by decide

/-- The capitals of some characters are settled. -/
def Settling (chars : List Char) : Prop := ∀ c ∈ chars, ∀ x ∈ capital c, Settled x

-- Not left to inference, which may go through all characters rather than those of the list.
instance (chars : List Char) : Decidable (Settling chars) :=
  @List.decidableBAll _ _ (fun _ => List.decidableBAll _ _) chars

/-- Those of ASCII characters are. -/
theorem settling_of_ascii {chars : List Char} (ascii : ∀ c ∈ chars, c.toNat < 0x80) : Settling chars := by
  have all : Settling ((List.range 0x80).map Char.ofNat) := by decide +kernel
  intro c inside
  apply all
  exact List.mem_map.mpr ⟨c.toNat, List.mem_range.mpr (ascii c inside), Char.ofNat_toNat c⟩

section Settled

variable {chars : List Char}

/-- A text of settled characters has no small letter at any position. -/
theorem any_isLowercase_of_settled (settled : ∀ c ∈ chars, Settled c) (i : Nat) :
    chars[i]?.any isLowercase = false := by
  rcases here : chars[i]? with _ | c
  · rfl
  · exact (settled c (List.mem_of_getElem? here)).1

/-- There is no compound word in it, for want of its small letters. -/
theorem not_compoundAt_of_settled (settled : ∀ c ∈ chars, Settled c) (i : Nat) : ¬ CompoundAt chars i := by
  rintro ⟨word, -⟩
  have inside : 'b' ∈ (chars.drop i).take 4 := by rw [word]; decide
  have small := settled 'b' (List.mem_of_mem_drop (List.mem_of_mem_take inside))
  exact absurd small (by decide)

/-- Nothing is parted from what comes before. -/
theorem not_parted_of_settled (settled : ∀ c ∈ chars, Settled c) (i : Nat) (c : Char) : ¬ Parted chars i c := by
  rintro ⟨-, -, -, before | after | ⟨-, compound⟩⟩
  · rw [any_isLowercase_of_settled settled] at before
    cases before
  · rw [any_isLowercase_of_settled settled] at after
    cases after
  · exact not_compoundAt_of_settled settled _ compound

private theorem spell_of_settled (settled : ∀ c ∈ chars, Settled c) : spell chars = chars := by
  have kept : ∀ place ∈ chars.zipIdx, piece chars place.2 place.1 = [place.1] := by
    rintro ⟨c, i⟩ member
    rw [piece, if_neg (not_parted_of_settled settled i c), List.nil_append]
    exact (settled c (List.fst_mem_of_mem_zipIdx member)).2
  calc spell chars
    _ = (chars.zipIdx.map fun place => piece chars place.2 place.1).flatten := List.flatMap_def
    _ = (chars.zipIdx.map fun place => [place.1]).flatten := by rw [List.map_congr_left kept]
    _ = chars.zipIdx.map Prod.fst := (List.map_eq_flatMap.trans List.flatMap_def).symm
    _ = chars := List.zipIdx_map_fst ..

/-- A name has underscores and capitals of the token's characters. -/
theorem mem_spell {x : Char} (member : x ∈ spell chars) : x = '_' ∨ ∃ c ∈ chars, x ∈ capital c := by
  obtain ⟨⟨c, i⟩, place, written⟩ := List.mem_flatMap.mp member
  rcases List.mem_append.mp written with underscore | letter
  · split at underscore
    · exact .inl (List.mem_singleton.mp underscore)
    · cases underscore
  · exact .inr ⟨c, List.fst_mem_of_mem_zipIdx place, letter⟩

private theorem settled_spell (settling : Settling chars) : ∀ x ∈ spell chars, Settled x := by
  intro x member
  rcases mem_spell member with rfl | ⟨c, inside, letter⟩
  · exact settled_underscore
  · exact settling c inside x letter

end Settled

/-- At the start of a word no flag is set, and the scan spells it by its positions. -/
theorem scan_start (chars : List Char) : scan .start chars = spell chars :=
  scan_eq [] chars fun _ behind => nomatch behind

private theorem normalize_of_settled {token : String} (settled : ∀ c ∈ token.toList, Settled c) :
    normalize token = token := by
  rw [normalize, scan_start, spell_of_settled settled, String.ofList_toList]

private theorem normalize_normalize {token : String} (settling : Settling token.toList) :
    normalize (normalize token) = normalize token := by
  apply normalize_of_settled
  rw [normalize, String.toList_ofList, scan_start]
  exact settled_spell settling

/-- The name of a name is that name, if the capitals of the token's characters are settled, and so for every
ASCII token. A text of settled characters is its own name. -/
theorem normalize_idempotent (token : String) :
    (Settling token.toList → normalize (normalize token) = normalize token) ∧
    ((∀ c ∈ token.toList, c.toNat < 0x80) → normalize (normalize token) = normalize token) ∧
    ((∀ c ∈ token.toList, Settled c) → normalize token = token) := by
  refine ⟨normalize_normalize, fun ascii => ?_, normalize_of_settled⟩
  exact normalize_normalize (settling_of_ascii ascii)

/-- A token with a compound word, a digit, an underscore and a letter whose capital is two letters. -/
theorem normalize_idempotent_street :
    Settling "ObjC_straße2Decl".toList ∧
      normalize (normalize "ObjC_straße2Decl") = normalize "ObjC_straße2Decl" ∧
      normalize "ObjC_straße2Decl" = "OBJC_STRASSE2_DECL" := by
  have settling : Settling "ObjC_straße2Decl".toList := by decide +kernel
  exact ⟨settling, (normalize_idempotent _).1 settling, by decide +kernel⟩

/-- The small letter `ª` has no capital, so it parts words in names too. -/
example : normalize "BCª" = "B_Cª" ∧ normalize "B_Cª" = "B__Cª" := by decide +kernel

end HandleGraph.KindName
