import HandleGraph.Clang.Version
import Mathlib.Data.List.Induction
import Mathlib.Data.List.TakeWhile
import Mathlib.Data.Nat.Digits.Defs

/-! # The grammar of version texts

A version text that names a release has three parts around its first `version `: what stands before it, the
digits that follow it, and the rest. The release comes from the digits and from whether the text starts with
`Apple`, and from nothing else. It is the number that the digits spell, or the next one for Apple's
numbering. For one value of the digits that is past the last 32-bit word, and the addition overflows.
-/

namespace HandleGraph.Clang

/-! ### Searching -/

/-- No occurrence of `pattern` in a text starts before the end of `before`. -/
def First (pattern text before : List Char) : Prop :=
  ∀ earlier later, text = earlier ++ pattern ++ later → before.length ≤ earlier.length

section Searching

variable {pattern text before after : List Char} {c : Char}

private theorem First.nil : First pattern text [] := fun _ _ _ => Nat.zero_le _

private theorem First.cons (start : ¬ pattern <+: c :: text) (first : First pattern text before) :
    First pattern (c :: text) (c :: before) := by
  intro earlier later split
  cases earlier with
  | nil => exact absurd ⟨later, split.symm⟩ start
  | cons d earlier =>
    rw [List.cons_append, List.cons_append, List.cons.injEq] at split
    exact Nat.succ_le_succ (first earlier later split.2)

private theorem First.tail (first : First pattern (c :: text) (c :: before)) : First pattern text before := by
  intro earlier later split
  exact Nat.le_of_succ_le_succ (first (c :: earlier) later (congrArg (c :: ·) split))

private theorem afterFirst?_eq_none_iff : afterFirst? pattern text = none ↔ ¬ pattern <:+: text := by
  induction text with
  | nil => cases pattern <;> simp [afterFirst?]
  | cons c text ih =>
    rw [afterFirst?, List.infix_cons_iff]
    by_cases start : pattern.isPrefixOf (c :: text)
    · simp [start, List.isPrefixOf_iff_prefix.mp start]
    · rw [if_neg start, ih, ← List.isPrefixOf_iff_prefix]
      simp [start]

/-- What comes after the first occurrence. -/
theorem afterFirst?_eq_some_iff :
    afterFirst? pattern text = some after ↔
      ∃ before, text = before ++ pattern ++ after ∧ First pattern text before := by
  induction text with
  | nil =>
    have empty : (∃ before, [] = before ++ pattern ++ after ∧ First pattern [] before) ↔
        pattern = [] ∧ after = [] := by
      constructor
      · rintro ⟨before, split, -⟩
        rw [eq_comm, List.append_eq_nil_iff, List.append_eq_nil_iff] at split
        exact ⟨split.1.2, split.2⟩
      · rintro ⟨rfl, rfl⟩
        exact ⟨[], rfl, .nil⟩
    rw [empty, afterFirst?]
    cases pattern <;> simp [eq_comm]
  | cons c text ih =>
    rw [afterFirst?]
    -- Where the pattern starts here, nothing can come before its first occurrence.
    by_cases start : pattern <+: c :: text
    · obtain ⟨later, split⟩ := start
      rw [if_pos (List.isPrefixOf_iff_prefix.mpr ⟨later, split⟩), ← split, List.drop_left, Option.some.injEq]
      constructor
      · rintro rfl
        exact ⟨[], rfl, .nil⟩
      · rintro ⟨before, same, first⟩
        obtain rfl := List.length_eq_zero_iff.mp (Nat.le_zero.mp (first [] later rfl))
        exact List.append_cancel_left same
    · rw [if_neg (mt List.isPrefixOf_iff_prefix.mp start), ih]
      constructor
      · rintro ⟨before, rfl, first⟩
        exact ⟨c :: before, rfl, .cons start first⟩
      · rintro ⟨_ | ⟨d, before⟩, same, first⟩
        · exact absurd ⟨after, same.symm⟩ start
        · rw [List.cons_append, List.cons_append, List.cons.injEq] at same
          obtain ⟨rfl, same⟩ := same
          exact ⟨before, same, first.tail⟩

end Searching

/-! ### Decimal numbers -/

def digit (c : Char) : Nat := c.toNat - '0'.toNat

/-- Reading digits from the left is to weigh each by its place. -/
theorem decimalValue_eq_ofDigits (digits : List Char) :
    decimalValue digits = Nat.ofDigits 10 (digits.map digit).reverse := by
  induction digits using List.reverseRecOn with
  | nil => rfl
  | append_singleton digits d ih =>
    have last : decimalValue (digits ++ [d]) = decimalValue digits * 10 + digit d := by
      rw [decimalValue, List.foldl_append]
      rfl
    rw [last, ih, List.map_append, List.map_singleton, List.reverse_append, List.reverse_singleton,
      List.singleton_append, Nat.ofDigits_cons]
    omega

private theorem decimalWord?_eq (digits : List Char) :
    decimalWord? digits =
      if digits = [] ∨ 2 ^ 32 ≤ Nat.ofDigits 10 (digits.map digit).reverse then none
      else some (UInt32.ofNat (Nat.ofDigits 10 (digits.map digit).reverse)) := by
  rw [decimalWord?, decimalValue_eq_ofDigits]
  by_cases empty : digits = []
  · rw [if_pos (by rw [empty]; rfl), if_pos (.inl empty)]
  · rw [if_neg (mt List.isEmpty_iff.mp empty)]
    change (if _ < 2 ^ 32 then _ else _) = _
    by_cases word : Nat.ofDigits 10 (digits.map digit).reverse < 2 ^ 32
    · rw [if_pos word, if_neg (not_or.mpr ⟨empty, by omega⟩)]
    · rw [if_neg word, if_pos (.inr (by omega))]

private theorem checkedAdd_eq_ok_iff {a b c : UInt32} : checkedAdd a b = .ok c ↔ c.toNat = a.toNat + b.toNat := by
  have bound : c.toNat < 2 ^ 32 := c.toNat_lt
  unfold checkedAdd
  split
  next fits =>
    have sum : (a + b).toNat = a.toNat + b.toNat := by
      rw [UInt32.toNat_add, Nat.mod_eq_of_lt fits]
    rw [Except.ok.injEq, ← UInt32.toNat_inj, sum, eq_comm]
  next large =>
    change ¬ _ < 2 ^ 32 at large
    exact iff_of_false nofun (by omega)

private theorem checkedAdd_eq_error_iff {a b : UInt32} :
    checkedAdd a b = .error .overflow ↔ 2 ^ 32 ≤ a.toNat + b.toNat := by
  unfold checkedAdd
  split
  next fits =>
    change _ < 2 ^ 32 at fits
    exact iff_of_false nofun (by omega)
  next large =>
    change ¬ _ < 2 ^ 32 at large
    exact iff_of_true rfl (by omega)

private theorem checkedAdd_ofNat_one {n : Nat} (word : n < 2 ^ 32) :
    checkedAdd (UInt32.ofNat n) 1 =
      if n + 1 < 2 ^ 32 then .ok (UInt32.ofNat (n + 1)) else .error .overflow := by
  have value : (UInt32.ofNat n).toNat = n := UInt32.toNat_ofNat_of_lt' word
  split
  next fits => rw [checkedAdd_eq_ok_iff, value, UInt32.toNat_ofNat_of_lt' fits, UInt32.toNat_one]
  next large =>
    rw [checkedAdd_eq_error_iff, value, UInt32.toNat_one]
    omega

/-! ### Parts -/

/-- The parts of a version text around the word `version` and its space. -/
@[ext]
structure Parts where
  before : List Char
  digits : List Char
  rest : List Char
deriving DecidableEq, Repr

def Parts.value (p : Parts) : Nat := Nat.ofDigits 10 (p.digits.map digit).reverse

/-- A text has these parts: `version ` occurs first between them, and the digits go on as far as they can. -/
structure Parts.Of (p : Parts) (text : String) : Prop where
  split : text.toList = p.before ++ "version ".toList ++ (p.digits ++ p.rest)
  first : First "version ".toList text.toList p.before
  digits : ∀ c ∈ p.digits, c.isDigit = true
  longest : ∀ c ∈ p.rest.head?, c.isDigit = false

def FromApple (text : String) : Prop := "Apple".toList <+: text.toList

instance (text : String) : Decidable (FromApple text) :=
  inferInstanceAs (Decidable (_ <+: _))

def Parts.release (p : Parts) (text : String) : Nat := p.value + if FromApple text then 1 else 0

namespace Parts.Of

variable {p q : Parts} {text : String}

private theorem found (parts : p.Of text) :
    afterFirst? "version ".toList text.toList = some (p.digits ++ p.rest) :=
  afterFirst?_eq_some_iff.mpr ⟨p.before, parts.split, parts.first⟩

private theorem takeWhile_isDigit (parts : p.Of text) : (p.digits ++ p.rest).takeWhile Char.isDigit = p.digits := by
  have none : p.rest.takeWhile Char.isDigit = [] := by
    cases rest : p.rest with
    | nil => rfl
    | cons c later =>
      have other := parts.longest c (by rw [rest]; rfl)
      rw [List.takeWhile_cons_of_neg (by rw [other]; exact Bool.false_ne_true)]
  rw [List.takeWhile_append_of_pos parts.digits, none, List.append_nil]

private theorem statedMajor?_eq (parts : p.Of text) :
    statedMajor? text =
      if p.digits = [] ∨ 2 ^ 32 ≤ p.value then none else some (UInt32.ofNat p.value) := by
  rw [statedMajor?, parts.found]
  change decimalWord? ((p.digits ++ p.rest).takeWhile Char.isDigit) = _
  rw [parts.takeWhile_isDigit, decimalWord?_eq, ← Parts.value]

private theorem majorRelease?_of_refused (parts : p.Of text) (refused : p.digits = [] ∨ 2 ^ 32 ≤ p.value) :
    majorRelease? text = .ok none := by
  rw [majorRelease?, parts.statedMajor?_eq, if_pos refused]

/-- The release that a text with these parts names, unless the digits are missing or too many. -/
theorem majorRelease?_of_word (parts : p.Of text) (present : p.digits ≠ []) (word : p.value < 2 ^ 32) :
    majorRelease? text =
      if p.release text < 2 ^ 32 then .ok (some (UInt32.ofNat (p.release text))) else .error .overflow := by
  have stated : statedMajor? text = some (UInt32.ofNat p.value) := by
    rw [parts.statedMajor?_eq, if_neg (not_or.mpr ⟨present, by omega⟩)]
  rw [majorRelease?, stated, Parts.release]
  dsimp only
  by_cases apple : FromApple text
  · rw [if_pos (List.isPrefixOf_iff_prefix.mpr apple), if_pos apple, checkedAdd_ofNat_one word]
    split <;> rfl
  · rw [if_neg (mt List.isPrefixOf_iff_prefix.mp apple), if_neg apple, Nat.add_zero, if_pos word]

private theorem majorRelease?_eq_none_iff (parts : p.Of text) :
    majorRelease? text = .ok none ↔ p.digits = [] ∨ 2 ^ 32 ≤ p.value := by
  refine ⟨fun none => ?_, parts.majorRelease?_of_refused⟩
  by_contra accepted
  rw [not_or, Nat.not_le] at accepted
  rw [parts.majorRelease?_of_word accepted.1 accepted.2] at none
  split at none <;> cases none

/-- A release that is a word is read as it is. -/
theorem exists_major (parts : p.Of text) (present : p.digits ≠ []) (word : p.value < 2 ^ 32)
    (fits : p.release text < 2 ^ 32) :
    ∃ major, majorRelease? text = .ok (some major) ∧ major.toNat = p.release text :=
  ⟨_, by rw [parts.majorRelease?_of_word present word, if_pos fits], UInt32.toNat_ofNat_of_lt' fits⟩

/-- The parts of a text are its only ones. -/
theorem unique (one : p.Of text) (other : q.Of text) : p = q := by
  have before : p.before = q.before := by
    have lengths : p.before.length = q.before.length :=
      Nat.le_antisymm (one.first _ _ other.split) (other.first _ _ one.split)
    have same := one.split.symm.trans other.split
    rw [List.append_assoc, List.append_assoc] at same
    exact (List.append_inj same lengths).1
  have found := one.found.symm.trans other.found
  rw [Option.some.injEq] at found
  have digits : p.digits = q.digits := by
    rw [← one.takeWhile_isDigit, found, other.takeWhile_isDigit]
  have rest : p.rest = q.rest := by
    rw [digits] at found
    exact List.append_cancel_left found
  exact Parts.ext before digits rest

end Parts.Of

private theorem majorRelease?_of_absent {text : String} (absent : ¬ "version ".toList <:+: text.toList) :
    majorRelease? text = .ok none := by
  rw [majorRelease?, statedMajor?, afterFirst?_eq_none_iff.mpr absent]
  rfl

/-- Where the search comes out between the parts, they are those of the text. -/
theorem Parts.of_found {p : Parts} {text : String}
    (split : text.toList = p.before ++ "version ".toList ++ (p.digits ++ p.rest))
    (found : afterFirst? "version ".toList text.toList = some (p.digits ++ p.rest))
    (digits : ∀ c ∈ p.digits, c.isDigit = true) (longest : ∀ c ∈ p.rest.head?, c.isDigit = false) : p.Of text := by
  refine ⟨split, ?_, digits, longest⟩
  obtain ⟨before, same, first⟩ := afterFirst?_eq_some_iff.mp found
  rw [split] at same
  rwa [List.append_cancel_right (List.append_cancel_right same)]

private theorem Parts.exists_of {text : String} (occurs : "version ".toList <:+: text.toList) :
    ∃ p : Parts, p.Of text := by
  obtain ⟨after, found⟩ := Option.ne_none_iff_exists'.mp fun none => afterFirst?_eq_none_iff.mp none occurs
  obtain ⟨before, split, first⟩ := afterFirst?_eq_some_iff.mp found
  refine ⟨⟨before, after.takeWhile Char.isDigit, after.dropWhile Char.isDigit⟩, ?_, first, ?_, ?_⟩
  · rw [split, List.takeWhile_append_dropWhile]
  · exact fun c member => List.mem_takeWhile_imp member
  · intro c head
    have other : after.find? (fun d => !d.isDigit) = some c :=
      (List.find?_not_eq_head?_dropWhile _ _).trans head
    simpa using List.find?_some other

/-! ### The grammar -/

/-- A version text is read by its parts, and by nothing else in it. -/
structure ReadByParts (text : String) : Prop where
  /-- Without an occurrence of `version ` there is no release. -/
  absent : ¬ "version ".toList <:+: text.toList → majorRelease? text = .ok none
  /-- With one the text has parts, and no others. -/
  parts : "version ".toList <:+: text.toList → ∃! p : Parts, p.Of text
  /-- There must be digits, and their number must not exceed the last 32-bit word. -/
  refused_iff : ∀ p : Parts, p.Of text →
    (majorRelease? text = .ok none ↔ p.digits = [] ∨ 2 ^ 32 - 1 < p.value)
  /-- The release is that number. -/
  plain : ∀ p : Parts, p.Of text → p.digits ≠ [] → p.value ≤ 2 ^ 32 - 1 → ¬ FromApple text →
    ∃ major, majorRelease? text = .ok (some major) ∧ major.toNat = p.value
  /-- For Apple's numbering it is the next one, if that is a word. -/
  apple : ∀ p : Parts, p.Of text → p.digits ≠ [] → p.value < 2 ^ 32 - 1 → FromApple text →
    ∃ major, majorRelease? text = .ok (some major) ∧ major.toNat = p.value + 1
  /-- What stands before the word, except for Apple's name, and after the digits is of no consequence. -/
  indifferent : ∀ (other : String) (p q : Parts), p.Of text → q.Of other → q.digits = p.digits →
    (FromApple other ↔ FromApple text) → majorRelease? other = majorRelease? text

/-- Every version text is read by its parts: the digits after the first `version ` are the release, or one
less than it if the text starts with Apple's name. -/
theorem version_text_read_by_parts (text : String) : ReadByParts text where
  absent := majorRelease?_of_absent
  parts occurs := by
    obtain ⟨p, parts⟩ := Parts.exists_of occurs
    exact ⟨p, parts, fun q other => other.unique parts⟩
  refused_iff p parts := by
    rw [parts.majorRelease?_eq_none_iff]
    exact or_congr_right (by omega)
  plain p parts present word notApple := by
    have release : p.release text = p.value := by rw [Parts.release, if_neg notApple, Nat.add_zero]
    exact release ▸ parts.exists_major present (by omega) (by omega)
  apple p parts present word apple := by
    have release : p.release text = p.value + 1 := by rw [Parts.release, if_pos apple]
    exact release ▸ parts.exists_major present (by omega) (by omega)
  indifferent other p q parts otherParts digits start := by
    have value : q.value = p.value := by rw [Parts.value, Parts.value, digits]
    by_cases refused : p.digits = [] ∨ 2 ^ 32 ≤ p.value
    · rw [parts.majorRelease?_of_refused refused]
      rw [← digits, ← value] at refused
      exact otherParts.majorRelease?_of_refused refused
    · rw [not_or, Nat.not_le] at refused
      have release : q.release other = p.release text := by simp only [Parts.release, value, start]
      rw [parts.majorRelease?_of_word refused.1 refused.2, ← release]
      exact otherParts.majorRelease?_of_word (digits ▸ refused.1) (value ▸ refused.2)

example : majorRelease? "Apple clang version 0015.0.0 (version 99)" = .ok (some 16) := by decide

/-! ### Releases as words -/

/-- A text names a release: it has the digits of a 32-bit word, and Apple's numbering is one behind. -/
def Names (text : String) (release : Nat) : Prop :=
  ∃ p : Parts, p.Of text ∧ p.digits ≠ [] ∧ p.value < 2 ^ 32 ∧ release = p.release text

/-- Where no release is named there is nothing to read. -/
theorem majorRelease?_of_nameless {text : String} (nameless : ∀ release, ¬ Names text release) :
    majorRelease? text = .ok none := by
  by_cases occurs : "version ".toList <:+: text.toList
  · obtain ⟨p, parts⟩ := Parts.exists_of occurs
    rw [parts.majorRelease?_eq_none_iff]
    by_contra accepted
    rw [not_or, Nat.not_le] at accepted
    exact nameless _ ⟨p, parts, accepted.1, accepted.2, rfl⟩
  · exact majorRelease?_of_absent occurs

namespace Names

variable {text : String} {release : Nat}

private theorem majorRelease?_eq (names : Names text release) :
    majorRelease? text =
      if release < 2 ^ 32 then .ok (some (UInt32.ofNat release)) else .error .overflow := by
  obtain ⟨p, parts, present, word, rfl⟩ := names
  exact parts.majorRelease?_of_word present word

/-- A release goes past the last word by one at most. -/
theorem le (names : Names text release) : release ≤ 2 ^ 32 := by
  obtain ⟨p, -, -, word, rfl⟩ := names
  unfold Parts.release
  split <;> omega

/-- Up to there it is read as it is. -/
theorem exists_major (names : Names text release) (apart : release ≠ 2 ^ 32) :
    ∃ major, majorRelease? text = .ok (some major) ∧ major.toNat = release := by
  have fits : release < 2 ^ 32 := Nat.lt_of_le_of_ne names.le apart
  exact ⟨_, by rw [names.majorRelease?_eq, if_pos fits], UInt32.toNat_ofNat_of_lt' fits⟩

/-- The release goes past the last word for one number only, and only from Apple. -/
theorem past_iff : Names text (2 ^ 32) ↔ FromApple text ∧ ∃ p : Parts, p.Of text ∧ p.value = 2 ^ 32 - 1 := by
  constructor
  · rintro ⟨p, parts, -, word, past⟩
    unfold Parts.release at past
    by_cases apple : FromApple text
    · rw [if_pos apple] at past
      exact ⟨apple, p, parts, by omega⟩
    · rw [if_neg apple] at past
      omega
  · rintro ⟨apple, p, parts, last⟩
    refine ⟨p, parts, ?_, by omega, by rw [Parts.release, if_pos apple]; omega⟩
    intro empty
    rw [Parts.value, empty] at last
    cases last

end Names

/-- A text that names no release gives nothing to read. One that names a release gives it as a word, unless it
is the one past the last word. -/
theorem majorRelease?_cases (text : String) :
    (majorRelease? text = .ok none ∧ ∀ release, ¬ Names text release) ∨
      (∃ major : UInt32, majorRelease? text = .ok (some major) ∧ Names text major.toNat) ∨
        (majorRelease? text = .error .overflow ∧ Names text (2 ^ 32)) := by
  by_cases nameless : ∀ release, ¬ Names text release
  · exact .inl ⟨majorRelease?_of_nameless nameless, nameless⟩
  · obtain ⟨release, names⟩ := not_forall_not.mp nameless
    by_cases past : release = 2 ^ 32
    · subst past
      exact .inr (.inr ⟨by rw [names.majorRelease?_eq, if_neg (Nat.lt_irrefl _)], names⟩)
    · obtain ⟨major, read, rfl⟩ := names.exists_major past
      exact .inr (.inl ⟨major, read, names⟩)

/-- Nothing is read just where no release is named. -/
theorem majorRelease?_eq_none_iff {text : String} :
    majorRelease? text = .ok none ↔ ∀ release, ¬ Names text release := by
  refine ⟨fun none => ?_, majorRelease?_of_nameless⟩
  obtain ⟨-, nameless⟩ | ⟨major, read, -⟩ | ⟨stopped, -⟩ := majorRelease?_cases text
  · exact nameless
  · rw [none] at read
    cases read
  · rw [none] at stopped
    cases stopped

/-- Reading comes to a word just where that is the release named. -/
theorem majorRelease?_eq_some_iff {text : String} {major : UInt32} :
    majorRelease? text = .ok (some major) ↔ Names text major.toNat := by
  constructor
  · intro read
    obtain ⟨none, -⟩ | ⟨other, same, names⟩ | ⟨stopped, -⟩ := majorRelease?_cases text
    · rw [read] at none
      cases none
    · obtain rfl := Option.some.inj (Except.ok.inj (read.symm.trans same))
      exact names
    · rw [read] at stopped
      cases stopped
  · intro names
    rw [names.majorRelease?_eq, if_pos major.toNat_lt, UInt32.ofNat_toNat]

/-- The sum overflows just where the release named is past the last word. -/
theorem majorRelease?_eq_error_iff {text : String} :
    majorRelease? text = .error .overflow ↔ Names text (2 ^ 32) := by
  constructor
  · intro stopped
    obtain ⟨none, -⟩ | ⟨major, read, -⟩ | ⟨-, past⟩ := majorRelease?_cases text
    · rw [stopped] at none
      cases none
    · rw [stopped] at read
      cases read
    · exact past
  · intro past
    rw [past.majorRelease?_eq, if_neg (Nat.lt_irrefl _)]

end HandleGraph.Clang
