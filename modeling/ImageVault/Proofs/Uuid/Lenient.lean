import ImageVault.Proofs.Uuid
import ImageVault.Proofs.Uuid.Numeral

/-!
# Lenient spellings of an identifier

An identifier may be spelled by its digits in letters of either case, with hyphens anywhere
between them, in braces and behind the name of its namespace. `Spells` has one rule for each of
these liberties, to be taken in any order.

## Main results

* `ofLenient?_eq_some_iff`: what is accepted is 32 characters, once the decorations are gone,
  that are a numeral; the identifier is its number.
* `Spells.ofLenient?`: every spelling is read as the identifier that it spells.

## Proof strategy

Dropping the names of namespaces goes from left to right and does not touch what holds no letter
of them (`withoutNames_append`), so of a spelling braces around its digits are left
(`Spells.exists_braces`). The middle part is what trimming leaves, and its hyphens fall out.
-/

namespace ImageVault.Uuid

/-! ### Names of namespaces -/

/-- The text without the names of namespaces. -/
def withoutNames (text : List Char) : List Char :=
  deleteWord "uuid:".toList (deleteWord "urn:".toList text)

theorem bareSpelling_eq (text : List Char) :
    bareSpelling text = (Text.stripEnds isBrace (withoutNames text)).filter (· ≠ '-') :=
  rfl

/-- A word is not found where its first letter does not stand. -/
theorem deleteWord_cons {first c : Char} (other : c ≠ first) (word rest : List Char) :
    deleteWord (first :: word) (c :: rest) = c :: deleteWord (first :: word) rest := by
  have unfound : (first :: word).isPrefixOf (c :: rest) = false := by
    simp [List.isPrefixOf, other.symm]
  rw [deleteWord, deleteFrom, unfound]
  rfl

theorem withoutNames_cons {c : Char} (other : c ≠ 'u') (rest : List Char) :
    withoutNames (c :: rest) = c :: withoutNames rest := by
  have first : deleteWord "urn:".toList (c :: rest) = c :: deleteWord "urn:".toList rest :=
    deleteWord_cons other _ rest
  rw [withoutNames, first]
  exact deleteWord_cons other _ _

theorem withoutNames_append {front : List Char} (other : ∀ c ∈ front, c ≠ 'u')
    (rest : List Char) : withoutNames (front ++ rest) = front ++ withoutNames rest := by
  induction front with
  | nil => rfl
  | cons c front ih =>
    obtain ⟨first, others⟩ := List.forall_mem_cons.mp other
    rw [List.cons_append, withoutNames_cons first, ih others, List.cons_append]

theorem withoutNames_eq_self {text : List Char} (other : ∀ c ∈ text, c ≠ 'u') :
    withoutNames text = text := by
  have whole := withoutNames_append other []
  rw [List.append_nil] at whole
  rw [whole]
  exact List.append_nil text

theorem withoutNames_named (text : List Char) :
    withoutNames (namespacePrefix ++ text) = withoutNames text :=
  rfl

/-! ### Spellings -/

/-- The word is made of the digits, in their order, and of hyphens. -/
inductive Hyphenated : List Char → List Char → Prop
  | nil : Hyphenated [] []
  | digit {digits word : List Char} (c : Char) :
      Hyphenated digits word → Hyphenated (c :: digits) (c :: word)
  | hyphen {digits word : List Char} :
      Hyphenated digits word → Hyphenated digits ('-' :: word)

/-- What spells an identifier. -/
inductive Spells (id : Uuid) : List Char → Prop
  | digits {digits word : List Char} : digits.map Char.toLower = id.digits →
      Hyphenated digits word → Spells id word
  | braced {text : List Char} : Spells id text → Spells id ('\x7b' :: (text ++ ['\x7d']))
  | named {text : List Char} : Spells id text → Spells id (namespacePrefix ++ text)

theorem Hyphenated.mem {digits word : List Char} (hyphenated : Hyphenated digits word) {c : Char}
    (member : c ∈ word) : c = '-' ∨ c ∈ digits := by
  induction hyphenated with
  | nil => cases member
  | digit d _ ih =>
    rcases List.mem_cons.mp member with rfl | inside
    · exact Or.inr List.mem_cons_self
    · exact (ih inside).imp_right (List.mem_cons_of_mem d)
  | hyphen _ ih =>
    rcases List.mem_cons.mp member with rfl | inside
    · exact Or.inl rfl
    · exact ih inside

theorem Hyphenated.filter_eq {digits word : List Char} (hyphenated : Hyphenated digits word)
    (plain : '-' ∉ digits) : word.filter (· ≠ '-') = digits := by
  induction hyphenated with
  | nil => rfl
  | digit c _ ih =>
    rw [List.mem_cons, not_or] at plain
    obtain ⟨other, others⟩ := plain
    rw [List.filter_cons_of_pos (by simpa using Ne.symm other), ih others]
  | hyphen _ ih =>
    rw [List.filter_cons_of_neg (by simp)]
    exact ih plain

namespace Spells

variable {id : Uuid} {text : List Char}

/-- Digits in letters of either case are digits. -/
theorem isHexDigit_of_mem {digits : List Char} (same : digits.map Char.toLower = id.digits)
    {c : Char} (member : c ∈ digits) : Text.isHexDigit c = true := by
  have lowered : c.toLower ∈ id.digits := by
    rw [← same]
    exact List.mem_map_of_mem member
  obtain ⟨digit, small, written⟩ := Text.mem_hexPadded lowered
  apply Text.isHexDigit_of_toLower
  rw [written]
  simp [Text.isHexDigit, Text.hexValue?_hexDigit small]

theorem mem_word {digits word : List Char} (same : digits.map Char.toLower = id.digits)
    (hyphenated : Hyphenated digits word) {c : Char} (member : c ∈ word) :
    c = '-' ∨ Text.isHexDigit c = true :=
  (hyphenated.mem member).imp_right (isHexDigit_of_mem same)

/-- Without the names of namespaces, braces stand around the digits and nothing else does. What
follows the spelling is kept general, for a brace that is opened in front is closed behind. -/
theorem exists_braces (spells : Spells id text) (tail : List Char)
    (closing : ∀ c ∈ tail, isBrace c = true) :
    ∃ digits before word after, digits.map Char.toLower = id.digits ∧ Hyphenated digits word ∧
      withoutNames (text ++ tail) = before ++ word ++ after ∧
      (∀ c ∈ before, isBrace c = true) ∧ ∀ c ∈ after, isBrace c = true := by
  induction spells generalizing tail with
  | @digits digits word same hyphenated =>
    have unnamed : ∀ c ∈ word ++ tail, c ≠ 'u' := by
      rintro c member rfl
      rcases List.mem_append.mp member with inWord | inTail
      · rcases mem_word same hyphenated inWord with hyphen | digit
        · exact absurd hyphen (by decide)
        · exact absurd digit (by decide)
      · exact absurd (closing 'u' inTail) (by decide)
    refine ⟨digits, [], word, tail, same, hyphenated, withoutNames_eq_self unnamed, ?_, closing⟩
    simp
  | @braced text _ ih =>
    -- The brace in front stays where it is, and the one behind joins what follows.
    have closed : ∀ c ∈ '\x7d' :: tail, isBrace c = true :=
      List.forall_mem_cons.mpr ⟨by decide, closing⟩
    obtain ⟨digits, before, word, after, same, hyphenated, left, opening, closing⟩ := ih _ closed
    refine ⟨digits, '\x7b' :: before, word, after, same, hyphenated, ?_,
      List.forall_mem_cons.mpr ⟨by decide, opening⟩, closing⟩
    rw [List.cons_append, List.append_assoc, withoutNames_cons (by decide)]
    exact congrArg ('\x7b' :: ·) left
  | @named text _ ih =>
    rw [List.append_assoc, withoutNames_named]
    exact ih tail closing

/-- The digits are left once the decorations are gone. -/
theorem exists_bareSpelling (spells : Spells id text) :
    (bareSpelling text).map Char.toLower = id.digits := by
  obtain ⟨digits, before, word, after, same, hyphenated, left, opening, closing⟩ :=
    spells.exists_braces [] (by simp)
  rw [List.append_nil] at left
  -- Neither a digit nor a hyphen is a brace, so stripping braces stops at the word.
  have bare : Text.HasBareEnds isBrace word := by
    refine Text.hasBareEnds_of_forall fun c member => ?_
    by_contra brace
    have either : c = '\x7b' ∨ c = '\x7d' := by
      rw [Bool.not_eq_false, isBrace, Bool.or_eq_true] at brace
      simpa using brace
    rcases mem_word same hyphenated member with rfl | digit
    · exact absurd either (by decide)
    · rcases either with rfl | rfl
      · exact absurd digit (by decide)
      · exact absurd digit (by decide)
  have plain : '-' ∉ digits := by
    intro member
    exact absurd (isHexDigit_of_mem same member) (by decide)
  rw [bareSpelling_eq, left, bare.stripEnds_append opening closing, hyphenated.filter_eq plain]
  exact same

end Spells

/-! ### What is accepted -/

theorem ofNat?_eq_some_iff (number : Nat) (id : Uuid) :
    ofNat? number = some id ↔ number = id.number.val := by
  unfold ofNat?
  constructor
  · intro read
    split at read
    · cases read
      rfl
    · cases read
  · rintro rfl
    rw [dif_pos id.number.isLt]

/-- What is left of the spelling has 32 characters, and they are a numeral. -/
theorem ofLenient?_eq_some_iff (text : List Char) (id : Uuid) :
    ofLenient? text = some id ↔ (bareSpelling text).length = 32 ∧
      ∃ plain, IsPlainForm (bareSpelling text) plain ∧ Numeral plain id.number.val := by
  rw [← readHexNumber?_eq_some_iff]
  unfold ofLenient?
  by_cases long : (bareSpelling text).length = 32
  · simp [long, guard, Option.bind_eq_some_iff, ofNat?_eq_some_iff]
  · simp [long, guard]

/-- Numerals of 32 characters are never out of range. -/
theorem exists_ofLenient? {text plain : List Char} {number : Nat}
    (long : (bareSpelling text).length = 32) (form : IsPlainForm (bareSpelling text) plain)
    (numeral : Numeral plain number) :
    ∃ id : Uuid, ofLenient? text = some id ∧ id.number.val = number := by
  have bound : number < 1 <<< 128 := by
    have few := numeral.lt
    rw [← form.length_eq, long] at few
    exact few
  refine ⟨⟨⟨number, bound⟩⟩, ?_, rfl⟩
  rw [ofLenient?_eq_some_iff]
  exact ⟨long, plain, form, numeral⟩

/-- The case of its letters makes no difference to a number. -/
theorem hexNumber?_map_toLower (digits : List Char) :
    Text.hexNumber? (digits.map Char.toLower) = Text.hexNumber? digits := by
  have capitals : ∀ place < 26, Text.hexValue? (Char.ofNat (65 + place)).toLower =
      Text.hexValue? (Char.ofNat (65 + place)) := by decide
  have same : ∀ c : Char, Text.hexValue? c.toLower = Text.hexValue? c := by
    intro c
    rcases Text.toLower_cases c with lower | ⟨place, small, rfl⟩
    · rw [lower]
    · exact capitals place small
  simp [Text.hexNumber?, List.foldlM_map, same]

/-- Digits are a numeral, so 32 of them are accepted. -/
theorem exists_ofLenient?_of_digits {text : List Char} {number : Nat}
    (long : (bareSpelling text).length = 32)
    (spelled : Text.hexNumber? (bareSpelling text) = some number) :
    ∃ id : Uuid, ofLenient? text = some id ∧ id.number.val = number := by
  have nonempty : bareSpelling text ≠ [] := by
    intro nothing
    rw [nothing] at long
    cases long
  obtain ⟨form, numeral⟩ := numeral_of_hexNumber? nonempty spelled
  exact exists_ofLenient? long form numeral

/-- Every spelling is read as what it spells. -/
theorem Spells.ofLenient? {id : Uuid} {text : List Char} (spells : Spells id text) :
    ofLenient? text = some id := by
  have digits := spells.exists_bareSpelling
  have long : (bareSpelling text).length = 32 := by
    have lengths := congrArg List.length digits
    rw [List.length_map, digits_length] at lengths
    exact lengths
  have spelled : Text.hexNumber? (bareSpelling text) = some id.number.val := by
    rw [← hexNumber?_map_toLower, digits, hexNumber?_digits]
  obtain ⟨read, known, same⟩ := exists_ofLenient?_of_digits long spelled
  rw [ofLenient?_eq_some_iff] at known ⊢
  rw [← same]
  exact known

/-! ### The canonical text -/

/-- The 32 digits of the number in lower case, grouped 8-4-4-4-12. -/
def IsCanonical (text : List Char) (number : Nat) : Prop :=
  ∃ groups : List (List Char), groups.map List.length = [8, 4, 4, 4, 12] ∧
    (∀ group ∈ groups, ∀ c ∈ group, c ∈ "0123456789abcdef".toList) ∧
    text = Text.joinWith '-' groups ∧ Text.hexNumber? groups.flatten = some number

theorem isCanonical_chars (id : Uuid) : IsCanonical id.chars id.number.val := by
  have lower : ∀ digit < 16, Text.hexDigit digit ∈ "0123456789abcdef".toList := by decide
  refine ⟨groups id.digits, map_length_groups id.digits_length, ?_, hyphenate_eq_joinWith _, ?_⟩
  · intro group member c inside
    have written : c ∈ (groups id.digits).flatten := List.mem_flatten.mpr ⟨group, member, inside⟩
    rw [flatten_groups] at written
    obtain ⟨digit, small, rfl⟩ := Text.mem_hexPadded written
    exact lower digit small
  · rw [flatten_groups]
    exact hexNumber?_digits id

theorem Hyphenated.append_left {digits word : List Char} (hyphenated : Hyphenated digits word)
    (front : List Char) : Hyphenated (front ++ digits) (front ++ word) := by
  induction front with
  | nil => exact hyphenated
  | cons c _ ih => exact .digit c ih

/-- Groups of digits with hyphens between them. -/
theorem hyphenated_joinWith (groups : List (List Char)) :
    Hyphenated groups.flatten (Text.joinWith '-' groups) := by
  induction groups with
  | nil => exact .nil
  | cons group others ih =>
    cases others with
    | nil => simpa [Text.joinWith] using Hyphenated.append_left .nil group
    | cons next others =>
      rw [Text.joinWith_cons_cons, List.flatten_cons]
      exact ih.hyphen.append_left group

/-- The canonical text is one of the spellings. -/
theorem spells_chars (id : Uuid) : Spells id id.chars := by
  have lower : ∀ digit < 16, (Text.hexDigit digit).toLower = Text.hexDigit digit := by decide
  have each : ∀ c ∈ id.digits, c.toLower = c := by
    intro c member
    obtain ⟨digit, small, rfl⟩ := Text.mem_hexPadded member
    exact lower digit small
  have same : id.digits.map Char.toLower = id.digits := by
    rw [List.map_congr_left each, List.map_id']
  have hyphenated := hyphenated_joinWith (groups id.digits)
  rw [flatten_groups, ← hyphenate_eq_joinWith] at hyphenated
  exact .digits same hyphenated

end ImageVault.Uuid
