import Mathlib.Data.List.Forall2
import ImageVault.Proofs.Text.Ends
import ImageVault.Proofs.Text.Hex
import ImageVault.Proofs.Text.Split
import ImageVault.Uuid.Lenient

/-!
# Numbers in the generous notation

The digits of a lenient spelling are read as a number in a notation that allows more than
digits. `Numeral` is that notation, put together from its parts: blanks around the number, a
plus sign, a mark of the radix, and groups of digits between single underscores. Digits and
blanks of other scripts stand for plain ones (`IsPlainForm`).

## Main results

* `readHexNumber?_eq_some_iff`: what is read is exactly this notation.
* `Numeral.lt`: no numeral is greater than its number of characters allows.
* `Numeral.hexNumber?_of_unmarked`: a numeral that takes none of the liberties is made of digits.
-/

namespace ImageVault.Uuid

/-! ### Groups of digits -/

/-- Digits that spell the number, with single underscores between them. -/
structure GroupedDigits (digits : List Char) (number : Nat) : Prop where
  grouped : ∀ group ∈ Text.splitOn '_' digits, group ≠ []
  spelled : Text.hexNumber? (digits.filter (· ≠ '_')) = some number

/-- The first group may be empty only if a digit stands in front of it. -/
theorem readDigits_eq_some_iff {text first : List Char} {others : List (List Char)}
    (cut : Text.splitOn '_' text = first :: others) (total : Nat) (afterDigit : Bool)
    (number : Nat) :
    readDigits total afterDigit text = some number ↔
      (afterDigit = false → first ≠ []) ∧ (∀ group ∈ others, group ≠ []) ∧
      (text.filter (· ≠ '_')).foldlM
        (fun total c => (Text.hexValue? c).map (16 * total + ·)) total = some number := by
  -- The total so far and whether a digit has just been read change from character to character.
  induction text generalizing first others total afterDigit with
  | nil =>
    obtain ⟨rfl, rfl⟩ := List.cons.inj cut
    cases afterDigit <;> simp [readDigits]
  | cons c rest ih =>
    obtain ⟨piece, pieces, later⟩ := List.exists_cons_of_ne_nil (Text.splitOn_ne_nil '_' rest)
    rw [Text.splitOn] at cut
    by_cases underscore : c = '_'
    · -- An underscore ends a group, which must not have been empty, and begins another.
      subst underscore
      obtain ⟨rfl, rfl⟩ := List.cons.inj ((if_pos rfl).symm.trans cut)
      rw [later]
      cases afterDigit with
      | false => simp [readDigits]
      | true => simp [readDigits, ih later, and_assoc]
    · rw [if_neg underscore, later] at cut
      obtain ⟨rfl, rfl⟩ := List.cons.inj cut
      rw [readDigits, if_neg underscore, List.filter_cons_of_pos (by simpa using underscore),
        List.foldlM_cons]
      cases Text.hexValue? c with
      | none => simp
      | some value => simp [ih later]

theorem readDigits_iff (digits : List Char) (number : Nat) :
    readDigits 0 false digits = some number ↔ GroupedDigits digits number := by
  obtain ⟨first, others, cut⟩ := List.exists_cons_of_ne_nil (Text.splitOn_ne_nil '_' digits)
  rw [readDigits_eq_some_iff cut]
  constructor
  · rintro ⟨present, later, spelled⟩
    refine ⟨?_, spelled⟩
    rw [cut]
    exact List.forall_mem_cons.mpr ⟨present rfl, later⟩
  · rintro ⟨grouped, spelled⟩
    rw [cut] at grouped
    obtain ⟨present, later⟩ := List.forall_mem_cons.mp grouped
    exact ⟨fun _ => present, later, spelled⟩

namespace GroupedDigits

variable {digits : List Char} {number : Nat}

theorem mem (read : GroupedDigits digits number) {c : Char} (member : c ∈ digits) :
    c = '_' ∨ Text.isHexDigit c = true := by
  by_cases underscore : c = '_'
  · exact Or.inl underscore
  · right
    apply Text.hexDigits_of_hexNumber? read.spelled
    exact List.mem_filter.mpr ⟨member, by simpa using underscore⟩

theorem not_mem (read : GroupedDigits digits number) {c : Char} (other : c ≠ '_')
    (no_digit : Text.isHexDigit c = false) : c ∉ digits := by
  intro member
  rcases read.mem member with underscore | digit
  · exact other underscore
  · rw [no_digit] at digit
    cases digit

/-- No group is empty, so none begins with an underscore. -/
theorem head?_ne (read : GroupedDigits digits number) : digits.head? ≠ some '_' := by
  intro first
  obtain ⟨rest, rfl⟩ := List.head?_eq_some_iff.mp first
  exact read.grouped [] (by simp [Text.splitOn]) rfl

theorem lt (read : GroupedDigits digits number) : number < 16 ^ digits.length := by
  obtain ⟨spelled, bound, same⟩ :=
    Text.hexNumber?_of_hexDigits (Text.hexDigits_of_hexNumber? read.spelled)
  rw [read.spelled] at same
  calc number = spelled := Option.some.inj same
    _ < 16 ^ (digits.filter (· ≠ '_')).length := bound
    _ ≤ 16 ^ digits.length := Nat.pow_le_pow_right (by decide) (List.length_filter_le _ _)

theorem filter_eq_self (whole : '_' ∉ digits) : digits.filter (· ≠ '_') = digits := by
  refine List.filter_eq_self.mpr fun c member => ?_
  have other : c ≠ '_' := by
    rintro rfl
    exact whole member
  simpa using other

/-- Without underscores there is one group, and it is all digits. -/
theorem of_hexNumber? (nonempty : digits ≠ []) (spelled : Text.hexNumber? digits = some number) :
    GroupedDigits digits number := by
  have whole : '_' ∉ digits := by
    intro member
    exact absurd (Text.hexDigits_of_hexNumber? spelled _ member) (by decide)
  constructor
  · rw [Text.splitOn_of_not_mem whole]
    simpa using nonempty
  · rw [filter_eq_self whole]
    exact spelled

theorem hexNumber?_eq (read : GroupedDigits digits number) (whole : '_' ∉ digits) :
    Text.hexNumber? digits = some number := by
  rw [← filter_eq_self whole]
  exact read.spelled

end GroupedDigits

/-! ### Signs and marks -/

def signs : List (List Char) :=
  [[], ['+']]

/-- One underscore may follow the mark of the radix. -/
def radixMarks : List (List Char) :=
  [[], ['0', 'x'], ['0', 'X'], ['0', 'x', '_'], ['0', 'X', '_']]

theorem exists_sign (text : List Char) : ∃ sign ∈ signs, text = sign ++ afterPlus text := by
  unfold afterPlus
  split
  · exact ⟨['+'], by decide, rfl⟩
  · exact ⟨[], by decide, rfl⟩

theorem exists_radixMark (text : List Char) :
    ∃ mark ∈ radixMarks, text = mark ++ afterRadixMark text := by
  fun_cases afterRadixMark text with
  | case1 mark marked rest =>
    rcases (by simpa using marked : mark = 'x' ∨ mark = 'X') with rfl | rfl
    · exact ⟨['0', 'x', '_'], by decide, rfl⟩
    · exact ⟨['0', 'X', '_'], by decide, rfl⟩
  | case2 mark marked rest =>
    rcases (by simpa using marked : mark = 'x' ∨ mark = 'X') with rfl | rfl
    · exact ⟨['0', 'x'], by decide, rfl⟩
    · exact ⟨['0', 'X'], by decide, rfl⟩
  | case3 => exact ⟨[], by decide, rfl⟩
  | case4 => exact ⟨[], by decide, rfl⟩

theorem afterPlus_append {sign text : List Char} (signed : sign ∈ signs)
    (unsigned : text.head? ≠ some '+') : afterPlus (sign ++ text) = text := by
  rcases (by simpa [signs] using signed : sign = [] ∨ sign = ['+']) with rfl | rfl
  · rw [List.nil_append]
    unfold afterPlus
    split
    · exact absurd rfl unsigned
    · rfl
  · rfl

namespace GroupedDigits

variable {digits : List Char} {number : Nat}

theorem afterRadixMark_eq (read : GroupedDigits digits number) :
    afterRadixMark digits = digits := by
  -- Every mark but the empty one has a letter that is no digit.
  have unmarked : 'x' ∉ digits ∧ 'X' ∉ digits :=
    ⟨read.not_mem (by decide) (by decide), read.not_mem (by decide) (by decide)⟩
  obtain ⟨mark, marked, whole⟩ := exists_radixMark digits
  rw [whole] at unmarked
  simp only [radixMarks, List.mem_cons, List.not_mem_nil, or_false] at marked
  rcases marked with rfl | rfl | rfl | rfl | rfl
  · exact whole.symm
  all_goals simp at unmarked

theorem afterRadixMark_append (read : GroupedDigits digits number) {mark : List Char}
    (marked : mark ∈ radixMarks) : afterRadixMark (mark ++ digits) = digits := by
  have kept : ∀ letter, letter = 'x' ∨ letter = 'X' →
      afterRadixMark ('0' :: letter :: digits) = digits := by
    intro letter radix
    simp only [afterRadixMark]
    rw [if_pos (by simpa using radix)]
    split
    · exact absurd rfl read.head?_ne
    · rfl
  simp only [radixMarks, List.mem_cons, List.not_mem_nil, or_false] at marked
  rcases marked with rfl | rfl | rfl | rfl | rfl
  · exact read.afterRadixMark_eq
  · exact kept 'x' (Or.inl rfl)
  · exact kept 'X' (Or.inr rfl)
  · rfl
  · rfl

theorem append_head?_ne (read : GroupedDigits digits number) {mark : List Char}
    (marked : mark ∈ radixMarks) : (mark ++ digits).head? ≠ some '+' := by
  have unsigned : '+' ∉ digits := read.not_mem (by decide) (by decide)
  simp only [radixMarks, List.mem_cons, List.not_mem_nil, or_false] at marked
  rcases marked with rfl | rfl | rfl | rfl | rfl
  · intro first
    exact unsigned (List.mem_of_head? first)
  all_goals simp

end GroupedDigits

/-! ### Numerals -/

theorem isPlainBlank_of_isHexDigit {c : Char} (digit : Text.isHexDigit c = true) :
    isPlainBlank c = false := by
  obtain ⟨value, known⟩ := Option.isSome_iff_exists.mp digit
  have visible : 48 ≤ c.toNat := by
    rcases Text.hexValue?_cases known with decimal | small | capital <;> omega
  by_contra blank
  simp only [isPlainBlank, Bool.not_eq_false, Bool.or_eq_true, beq_iff_eq, Bool.and_eq_true,
    decide_eq_true_eq] at blank
  rcases blank with rfl | ⟨-, few⟩
  · exact absurd visible (by decide)
  · omega

/-- A number with everything that may stand around and between its digits. -/
inductive Numeral : List Char → Nat → Prop
  | written {before sign mark digits after : List Char} {number : Nat} :
      (∀ c ∈ before, isPlainBlank c = true) → (∀ c ∈ after, isPlainBlank c = true) →
      sign ∈ signs → mark ∈ radixMarks → GroupedDigits digits number →
      Numeral (before ++ (sign ++ (mark ++ digits)) ++ after) number

/-- Nothing of the number itself is blank. -/
theorem GroupedDigits.bare {sign mark digits : List Char} {number : Nat} (signed : sign ∈ signs)
    (marked : mark ∈ radixMarks) (read : GroupedDigits digits number) :
    Text.HasBareEnds isPlainBlank (sign ++ (mark ++ digits)) := by
  have shown : (signs ++ radixMarks).all (·.all (!isPlainBlank ·)) = true := by decide
  simp only [List.all_eq_true, List.mem_append, Bool.not_eq_true'] at shown
  refine Text.hasBareEnds_of_forall fun c member => ?_
  simp only [List.mem_append] at member
  rcases member with inSign | inMark | inDigits
  · exact shown sign (Or.inl signed) c inSign
  · exact shown mark (Or.inr marked) c inMark
  · rcases read.mem inDigits with rfl | digit
    · decide
    · exact isPlainBlank_of_isHexDigit digit

theorem readDigits_trimmed_iff (plain : List Char) (number : Nat) :
    readDigits 0 false (afterRadixMark (afterPlus (Text.stripEnds isPlainBlank plain))) =
        some number ↔ Numeral plain number := by
  constructor
  · -- Each reader drops the part in front of it, so the parts are found from the outside in.
    intro read
    rw [readDigits_iff] at read
    obtain ⟨before, after, whole, front, back⟩ := Text.exists_ends isPlainBlank plain
    obtain ⟨sign, signed, behindBlanks⟩ := exists_sign (Text.stripEnds isPlainBlank plain)
    obtain ⟨mark, marked, behindSign⟩ :=
      exists_radixMark (afterPlus (Text.stripEnds isPlainBlank plain))
    rw [behindBlanks, behindSign] at whole
    rw [whole]
    exact .written front back signed marked read
  · rintro ⟨front, back, signed, marked, read⟩
    rw [(read.bare signed marked).stripEnds_append front back,
      afterPlus_append signed (read.append_head?_ne marked), read.afterRadixMark_append marked,
      readDigits_iff]
    exact read

/-! ### Characters that stand for plain ones -/

/-- The plain characters that the characters of a text stand for, one by one. -/
def IsPlainForm (text plain : List Char) : Prop :=
  List.Forall₂ (fun c d => plainChar? c = some d) text plain

theorem mapM_plainChar?_iff (text plain : List Char) :
    text.mapM plainChar? = some plain ↔ IsPlainForm text plain := by
  unfold IsPlainForm
  induction text generalizing plain with
  | nil => cases plain <;> simp
  | cons c rest ih =>
    rw [List.mapM_cons]
    cases known : plainChar? c with
    | none => cases plain <;> simp [known]
    | some d =>
      cases later : rest.mapM plainChar? with
      | none => cases plain <;> simp [← ih, later, known]
      | some ds => cases plain <;> simp [← ih, later, known]

/-- Exactly the numerals are read, in characters of any script that has them. -/
theorem readHexNumber?_eq_some_iff (text : List Char) (number : Nat) :
    readHexNumber? text = some number ↔
      ∃ plain, IsPlainForm text plain ∧ Numeral plain number := by
  constructor
  · intro read
    obtain ⟨plain, mapped, read⟩ := Option.bind_eq_some_iff.mp read
    exact ⟨plain, (mapM_plainChar?_iff text plain).mp mapped,
      (readDigits_trimmed_iff plain number).mp read⟩
  · rintro ⟨plain, form, numeral⟩
    refine Option.bind_eq_some_iff.mpr ⟨plain, (mapM_plainChar?_iff text plain).mpr form, ?_⟩
    exact (readDigits_trimmed_iff plain number).mpr numeral

theorem Numeral.lt {plain : List Char} {number : Nat} (numeral : Numeral plain number) :
    number < 16 ^ plain.length := by
  obtain ⟨front, back, signed, marked, read⟩ := numeral
  apply Nat.lt_of_lt_of_le read.lt
  apply Nat.pow_le_pow_right (by decide)
  simp only [List.length_append]
  omega

/-! ### Numerals without liberties -/

/-- The characters of the notation that are none of the sixteen digits in either case. -/
def isLiberty (c : Char) : Bool :=
  isPlainBlank c || c == '+' || c == '_' || c == 'x' || c == 'X' || 127 ≤ c.toNat

/-- Plain characters stand for themselves. -/
theorem isPlainForm_self {text : List Char} (plain : ∀ c ∈ text, c.toNat < 127) :
    IsPlainForm text text := by
  refine List.forall₂_same.mpr fun c member => ?_
  rw [plainChar?, if_pos (plain c member)]

theorem IsPlainForm.eq_self {text plain : List Char} (form : IsPlainForm text plain)
    (unforeign : ∀ c ∈ text, c.toNat < 127) : plain = text := by
  have mapped := (mapM_plainChar?_iff text plain).mpr form
  rw [(mapM_plainChar?_iff text text).mpr (isPlainForm_self unforeign)] at mapped
  exact (Option.some.inj mapped).symm

/-- Digits stand for themselves, and spell a numeral. -/
theorem numeral_of_hexNumber? {digits : List Char} {number : Nat} (nonempty : digits ≠ [])
    (spelled : Text.hexNumber? digits = some number) :
    IsPlainForm digits digits ∧ Numeral digits number := by
  constructor
  · apply isPlainForm_self
    intro c member
    exact Text.toNat_lt_of_isHexDigit (Text.hexDigits_of_hexNumber? spelled c member)
  · have written := @Numeral.written [] [] [] digits [] number (by simp) (by simp) (by decide)
      (by decide) (.of_hexNumber? nonempty spelled)
    simpa using written

/-- Whatever stands around the digits takes a liberty. -/
theorem eq_nil_of_unmarked {part : List Char} (unmarked : ∀ c ∈ part, isLiberty c = false)
    (around : (∀ c ∈ part, isPlainBlank c = true) ∨ part ∈ signs ∨ part ∈ radixMarks) :
    part = [] := by
  have listed : (signs ++ radixMarks).all (fun part => part.isEmpty || part.any isLiberty) =
      true := by decide
  simp only [List.all_eq_true, List.mem_append, Bool.or_eq_true, List.isEmpty_iff,
    List.any_eq_true] at listed
  by_contra nonempty
  have taken : ∃ c ∈ part, isLiberty c = true := by
    rcases around with blank | signed | marked
    · obtain ⟨c, rest, rfl⟩ := List.exists_cons_of_ne_nil nonempty
      exact ⟨c, List.mem_cons_self, by simp [isLiberty, blank c List.mem_cons_self]⟩
    · exact (listed part (Or.inl signed)).resolve_left nonempty
    · exact (listed part (Or.inr marked)).resolve_left nonempty
  obtain ⟨c, member, liberty⟩ := taken
  rw [unmarked c member] at liberty
  cases liberty

/-- A numeral in which no liberty is taken is made of digits alone. -/
theorem Numeral.hexNumber?_of_unmarked {text plain : List Char} {number : Nat}
    (numeral : Numeral plain number) (form : IsPlainForm text plain)
    (unmarked : ∀ c ∈ text, isLiberty c = false) : Text.hexNumber? text = some number := by
  have unforeign : ∀ c ∈ text, c.toNat < 127 := by
    intro c member
    have none_taken := unmarked c member
    simp only [isLiberty, Bool.or_eq_false_iff, decide_eq_false_iff_not, Nat.not_le] at none_taken
    exact none_taken.2
  obtain rfl := form.eq_self unforeign
  obtain @⟨before, sign, mark, digits, after, number, front, back, signed, marked, read⟩ := numeral
  simp only [List.mem_append, or_imp, forall_and] at unmarked
  obtain ⟨⟨inFront, inSign, inMark, inDigits⟩, inBack⟩ := unmarked
  -- Each part but the digits is empty.
  rw [eq_nil_of_unmarked inFront (Or.inl front), eq_nil_of_unmarked inBack (Or.inl back),
    eq_nil_of_unmarked inSign (Or.inr (Or.inl signed)),
    eq_nil_of_unmarked inMark (Or.inr (Or.inr marked))]
  simp only [List.nil_append, List.append_nil]
  apply read.hexNumber?_eq
  intro member
  have taken := inDigits '_' member
  simp [isLiberty] at taken

end ImageVault.Uuid
