import ImageVault.Proofs.Text.Hex
import ImageVault.Text.Split
import ImageVault.Uuid.Strict

/-!
# Identifiers, written and read

The canonical text of an identifier is one of the strict spellings, and it spells the
identifier that it was written from.
-/

namespace ImageVault.Uuid

theorem digits_length (id : Uuid) : id.digits.length = 32 :=
  Text.hexPadded_length 32 id.number

theorem hyphen_not_mem_digits (id : Uuid) : '-' ∉ id.digits := by
  intro member
  obtain ⟨digit, small, same⟩ := Text.mem_hexPadded member
  exact (Text.hexDigit_separates_nothing small).1 same.symm

theorem hexNumber?_digits (id : Uuid) : Text.hexNumber? id.digits = some id.number.val := by
  have bound : id.number.val < 16 ^ 32 := id.number.isLt
  rw [digits, Text.hexNumber?_hexPadded, Nat.mod_eq_of_lt bound]

theorem ofDigits?_digits (id : Uuid) : ofDigits? id.digits = some id := by
  simp [ofDigits?, digits_length, hexNumber?_digits, ofNat?]

section Groups

variable {digits : List Char}

/-- Four digits and the digits behind them. -/
private theorem group_append (start : Nat) :
    (digits.drop start).take 4 ++ digits.drop (start + 4) = digits.drop start := by
  rw [← List.drop_drop, List.take_append_drop]

/-- The groups that hyphens are put between. -/
def groups (digits : List Char) : List (List Char) :=
  [digits.take 8, (digits.drop 8).take 4, (digits.drop 12).take 4, (digits.drop 16).take 4,
    digits.drop 20]

theorem hyphenate_eq_joinWith (digits : List Char) :
    hyphenate digits = Text.joinWith '-' (groups digits) := by
  simp [hyphenate, groups, Text.joinWith]

theorem flatten_groups (digits : List Char) : (groups digits).flatten = digits := by
  simp only [groups, List.flatten_cons, List.flatten_nil, List.append_nil]
  rw [group_append 16, group_append 12, group_append 8, List.take_append_drop]

theorem map_length_groups (all : digits.length = 32) :
    (groups digits).map List.length = [8, 4, 4, 4, 12] := by
  simp [groups, all]

theorem hyphenate_length (all : digits.length = 32) : (hyphenate digits).length = 36 := by
  simp [hyphenate, all]

/-- The places at which a spelling is required to have its hyphens. -/
theorem hyphenate_places (all : digits.length = 32) :
    ([8, 13, 18, 23].all fun place => (hyphenate digits)[place]? = some '-') = true := by
  simp [hyphenate, List.getElem?_append, all]

/-- The groups put together again. -/
theorem filter_hyphenate (plain : '-' ∉ digits) :
    (hyphenate digits).filter (· ≠ '-') = digits := by
  have kept : ∀ part : List Char, part ⊆ digits → part.filter (· ≠ '-') = part := by
    intro part inside
    refine List.filter_eq_self.mpr fun c member => ?_
    have other : c ≠ '-' := fun same => plain (inside (same ▸ member))
    simpa using other
  have group : ∀ start, ((digits.drop start).take 4) ⊆ digits := fun start =>
    List.Subset.trans (List.take_subset 4 _) (List.drop_subset start digits)
  -- Every hyphen falls out, and the groups between them stay as they are.
  rw [hyphenate]
  simp only [List.filter_append, List.filter_cons_of_neg, ne_eq, not_true_eq_false,
    decide_false, Bool.false_eq_true, not_false_eq_true]
  rw [kept _ (List.take_subset 8 digits), kept _ (group 8), kept _ (group 12), kept _ (group 16),
    kept _ (List.drop_subset 20 digits)]
  simp only [List.append_assoc]
  rw [group_append 16, group_append 12, group_append 8, List.take_append_drop]

end Groups

theorem chars_length (id : Uuid) : id.chars.length = 36 :=
  hyphenate_length id.digits_length

/-- The canonical text spells its identifier. -/
theorem ofStrict?_chars (id : Uuid) : ofStrict? id.chars = some id := by
  have places : ([8, 13, 18, 23].all fun place => id.chars[place]? = some '-') = true :=
    hyphenate_places id.digits_length
  have joined : id.chars.filter (· ≠ '-') = id.digits :=
    filter_hyphenate id.hyphen_not_mem_digits
  have grouped : ofGroups? id.chars = some id := by
    have long : (guard (id.chars.length = 36) : Option Unit) = some () := if_pos id.chars_length
    have placed : (guard ([8, 13, 18, 23].all fun place => id.chars[place]? = some '-') :
        Option Unit) = some () := if_pos places
    unfold ofGroups?
    rw [long, placed, joined, ofDigits?_digits]
    rfl
  simp [ofStrict?, chars_length, grouped]

theorem chars_injective {first second : Uuid} (same : first.chars = second.chars) :
    first = second := by
  have read := congrArg ofStrict? same
  rw [ofStrict?_chars, ofStrict?_chars] at read
  exact Option.some.inj read

end ImageVault.Uuid
