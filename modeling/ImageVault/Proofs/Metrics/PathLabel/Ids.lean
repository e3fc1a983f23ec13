import ImageVault.Metrics.PathLabel
import ImageVault.Proofs.Text.Split

/-!
# Identifiers in a path

Identifiers are replaced as they come from left to right, none of which begins inside another.
`ReplacesIds` says so by rules of its own, and these describe the replacement completely. The
label that stands for an identifier has braces, which identifiers have not, so nothing that is
left over, nor anything that stands across a label, is an identifier.
-/

namespace ImageVault.PathLabel

/-! ### Words that are identifiers -/

/-- Hexadecimal digits of either case, grouped as in the canonical text of an identifier. -/
def IsId (word : List Char) : Prop :=
  ∃ groups : List (List Char), groups.map List.length = [8, 4, 4, 4, 12] ∧
    (∀ group ∈ groups, ∀ c ∈ group, Text.isHexDigit c = true) ∧
    word = Text.joinWith '-' groups

theorem startsWithHex_iff (count : Nat) (text : List Char) :
    startsWithHex count text = true ↔ ∃ group rest, text = group ++ rest ∧
      group.length = count ∧ ∀ c ∈ group, Text.isHexDigit c = true := by
  -- One digit is read at a time, so the group grows at its front.
  induction count generalizing text with
  | zero =>
    refine iff_of_true rfl ⟨[], text, rfl, rfl, ?_⟩
    simp
  | succ count ih =>
    cases text with
    | nil =>
      constructor
      · intro starts
        cases starts
      · rintro ⟨group, rest, same, long, -⟩
        simp [List.append_eq_nil_iff.mp same.symm] at long
    | cons c more =>
      rw [startsWithHex, Bool.and_eq_true, ih]
      constructor
      · rintro ⟨digit, group, rest, rfl, rfl, digits⟩
        exact ⟨c :: group, rest, rfl, rfl, List.forall_mem_cons.mpr ⟨digit, digits⟩⟩
      · rintro ⟨group, rest, same, long, digits⟩
        cases group with
        | nil => cases long
        | cons d group =>
          obtain ⟨rfl, rfl⟩ := List.cons.inj same
          obtain ⟨digit, digits⟩ := List.forall_mem_cons.mp digits
          exact ⟨digit, group, rest, rfl, Nat.succ.inj long, digits⟩

/-- A group that is not the last one is followed by a hyphen and the other groups. -/
theorem startsWithGroups_cons_iff (count next : Nat) (counts : List Nat) (text : List Char) :
    startsWithGroups (count :: next :: counts) text = true ↔ ∃ group rest,
      text = group ++ '-' :: rest ∧ group.length = count ∧
      (∀ c ∈ group, Text.isHexDigit c = true) ∧
      startsWithGroups (next :: counts) rest = true := by
  have behind : ∀ group rest : List Char,
      (group ++ '-' :: rest).drop (group.length + 1) = rest := by
    intro group rest
    rw [← List.drop_drop, List.drop_left]
    rfl
  rw [startsWithGroups, Bool.and_eq_true, Bool.and_eq_true, startsWithHex_iff, beq_iff_eq]
  · constructor
    · rintro ⟨⟨⟨group, rest, rfl, rfl, digits⟩, hyphen⟩, others⟩
      -- The hyphen is looked up in its place, which is just behind the group.
      cases rest with
      | nil => simp at hyphen
      | cons c rest =>
        obtain rfl : c = '-' := by simpa using hyphen
        rw [behind] at others
        exact ⟨group, rest, rfl, rfl, digits, others⟩
    · rintro ⟨group, rest, rfl, rfl, digits, others⟩
      rw [behind]
      exact ⟨⟨⟨group, _, rfl, rfl, digits⟩, by simp⟩, others⟩
  · simp

/-- Groups of these lengths stand at the start, with hyphens between them. -/
theorem startsWithGroups_iff (counts : List Nat) (text : List Char) :
    startsWithGroups counts text = true ↔ ∃ groups : List (List Char),
      groups.map List.length = counts ∧
      (∀ group ∈ groups, ∀ c ∈ group, Text.isHexDigit c = true) ∧
      Text.joinWith '-' groups <+: text := by
  induction counts generalizing text with
  | nil =>
    refine iff_of_true rfl ⟨[], rfl, ?_, List.nil_prefix⟩
    simp
  | cons count counts ih =>
    cases counts with
    | nil =>
      rw [startsWithGroups, startsWithHex_iff]
      constructor
      · rintro ⟨group, rest, rfl, rfl, digits⟩
        exact ⟨[group], rfl, List.forall_mem_singleton.mpr digits, List.prefix_append group rest⟩
      · rintro ⟨groups, lengths, digits, rest, same⟩
        obtain ⟨group, rfl, long⟩ : ∃ group, groups = [group] ∧ group.length = count := by
          simpa [List.map_eq_singleton_iff] using lengths
        exact ⟨group, rest, same.symm, long, List.forall_mem_singleton.mp digits⟩
    | cons next counts =>
      rw [startsWithGroups_cons_iff]
      constructor
      · rintro ⟨group, rest, rfl, rfl, digits, others⟩
        obtain ⟨groups, lengths, others, starts⟩ := (ih rest).mp others
        refine ⟨group :: groups, by rw [List.map_cons, lengths],
          List.forall_mem_cons.mpr ⟨digits, others⟩, ?_⟩
        -- There is another group, so joining puts a hyphen behind the first one.
        cases groups with
        | nil => cases lengths
        | cons other groups =>
          rw [Text.joinWith_cons_cons, List.prefix_append_right_inj, List.cons_prefix_cons]
          exact ⟨rfl, starts⟩
      · rintro ⟨groups, lengths, digits, starts⟩
        match groups, lengths with
        | group :: other :: groups, lengths =>
          obtain ⟨long, lengths⟩ := List.cons.inj lengths
          obtain ⟨first, digits⟩ := List.forall_mem_cons.mp digits
          rw [Text.joinWith_cons_cons] at starts
          obtain ⟨tail, rfl⟩ := starts
          refine ⟨group, _, List.append_assoc _ _ _, long, first, ?_⟩
          exact (ih _).mpr ⟨other :: groups, lengths, digits, List.prefix_append _ tail⟩

theorem startsWithId_iff (text : List Char) :
    startsWithId text = true ↔ ∃ word, IsId word ∧ word <+: text := by
  rw [startsWithId, startsWithGroups_iff]
  constructor
  · rintro ⟨groups, lengths, digits, starts⟩
    exact ⟨_, ⟨groups, lengths, digits, rfl⟩, starts⟩
  · rintro ⟨word, ⟨groups, lengths, digits, rfl⟩, starts⟩
    exact ⟨groups, lengths, digits, starts⟩

namespace IsId

variable {word : List Char}

/-- The five groups of an identifier, one by one. -/
theorem exists_groups (isId : IsId word) : ∃ a b c d e : List Char,
    a.length = 8 ∧ b.length = 4 ∧ c.length = 4 ∧ d.length = 4 ∧ e.length = 12 ∧
    (∀ x ∈ a ++ b ++ c ++ d ++ e, Text.isHexDigit x = true) ∧
    word = a ++ '-' :: (b ++ '-' :: (c ++ '-' :: (d ++ '-' :: e))) := by
  obtain ⟨groups, lengths, digits, rfl⟩ := isId
  obtain ⟨a, groups, rfl, ha, lengths⟩ := List.map_eq_cons_iff.mp lengths
  obtain ⟨b, groups, rfl, hb, lengths⟩ := List.map_eq_cons_iff.mp lengths
  obtain ⟨c, groups, rfl, hc, lengths⟩ := List.map_eq_cons_iff.mp lengths
  obtain ⟨d, groups, rfl, hd, lengths⟩ := List.map_eq_cons_iff.mp lengths
  obtain ⟨e, groups, rfl, he, lengths⟩ := List.map_eq_cons_iff.mp lengths
  obtain rfl := List.map_eq_nil_iff.mp lengths
  refine ⟨a, b, c, d, e, ha, hb, hc, hd, he, ?_, rfl⟩
  simpa [or_imp, forall_and] using digits

theorem length_eq (isId : IsId word) : word.length = 36 := by
  obtain ⟨a, b, c, d, e, ha, hb, hc, hd, he, -, rfl⟩ := isId.exists_groups
  simp [ha, hb, hc, hd, he]

theorem mem (isId : IsId word) {c : Char} (member : c ∈ word) :
    c = '-' ∨ Text.isHexDigit c = true := by
  obtain ⟨groups, -, digits, rfl⟩ := isId
  rcases Text.mem_joinWith member with hyphen | ⟨group, chosen, inside⟩
  · exact Or.inl hyphen
  · exact Or.inr (digits group chosen c inside)

/-- An identifier holds no character of another kind. -/
theorem not_mem (isId : IsId word) {c : Char} (hyphen : c ≠ '-')
    (digit : Text.isHexDigit c = false) : c ∉ word := by
  intro member
  rcases isId.mem member with same | isDigit
  · exact hyphen same
  · rw [digit] at isDigit
    cases isDigit

theorem slash_not_mem (isId : IsId word) : '/' ∉ word :=
  isId.not_mem (by decide) (by decide)

theorem hyphen_mem (isId : IsId word) : '-' ∈ word := by
  obtain ⟨a, b, c, d, e, -, -, -, -, -, -, rfl⟩ := isId.exists_groups
  exact List.mem_append_right a List.mem_cons_self

theorem ne_nil (isId : IsId word) : word ≠ [] := by
  rintro rfl
  exact absurd isId.length_eq (by decide)

end IsId

/-! ### Replacing identifiers -/

/-- From left to right, a word that is an identifier becomes a label, and a character that
begins none stays. -/
inductive ReplacesIds : List Char → List Char → Prop
  | done : ReplacesIds [] []
  | id {word rest replaced : List Char} : IsId word → ReplacesIds rest replaced →
      ReplacesIds (word ++ rest) (idLabel ++ replaced)
  | char {c : Char} {rest replaced : List Char} : (∀ word, IsId word → ¬word <+: c :: rest) →
      ReplacesIds rest replaced → ReplacesIds (c :: rest) (c :: replaced)

theorem replaceIdsFrom_skip (skip : Nat) (text : List Char) :
    replaceIdsFrom skip text = replaceIdsFrom 0 (text.drop skip) := by
  induction text generalizing skip with
  | nil => cases skip <;> rfl
  | cons c rest ih =>
    cases skip with
    | zero => rfl
    | succ skip => exact ih skip

theorem replaceIdsFrom_id {word : List Char} (isId : IsId word) (rest : List Char) :
    replaceIdsFrom 0 (word ++ rest) = idLabel ++ replaceIdsFrom 0 rest := by
  have starts : startsWithId (word ++ rest) = true :=
    (startsWithId_iff _).mpr ⟨word, isId, List.prefix_append word rest⟩
  have long := isId.length_eq
  match word, long with
  | c :: more, long =>
    have passed : (more ++ rest).drop 35 = rest := List.drop_left' (Nat.succ.inj long)
    rw [List.cons_append] at starts ⊢
    rw [replaceIdsFrom, if_pos starts, replaceIdsFrom_skip, passed]

theorem replaceIdsFrom_char {c : Char} {rest : List Char}
    (none_starts : ∀ word, IsId word → ¬word <+: c :: rest) :
    replaceIdsFrom 0 (c :: rest) = c :: replaceIdsFrom 0 rest := by
  have other : startsWithId (c :: rest) ≠ true := by
    intro starts
    obtain ⟨word, isId, start⟩ := (startsWithId_iff _).mp starts
    exact none_starts word isId start
  rw [replaceIdsFrom, if_neg other]

/-- The rules say what is replaced, and all of it. -/
theorem replacesIds_iff (text replaced : List Char) :
    ReplacesIds text replaced ↔ replaceIdsFrom 0 text = replaced := by
  constructor
  · intro replaces
    induction replaces with
    | done => rfl
    | id isId _ ih => rw [replaceIdsFrom_id isId, ih]
    | char none_starts _ ih => rw [replaceIdsFrom_char none_starts, ih]
  · rintro rfl
    -- What is left behind an identifier is shorter by more than a character.
    induction hold : text.length using Nat.strong_induction_on generalizing text with
    | _ length ih =>
      cases text with
      | nil => exact .done
      | cons c rest =>
        by_cases starts : ∃ word, IsId word ∧ word <+: c :: rest
        · obtain ⟨word, isId, tail, same⟩ := starts
          rw [← same] at hold ⊢
          rw [replaceIdsFrom_id isId]
          refine .id isId (ih tail.length ?_ tail rfl)
          rw [List.length_append, isId.length_eq] at hold
          omega
        · rw [not_exists] at starts
          have none_starts : ∀ word, IsId word → ¬word <+: c :: rest :=
            fun word isId start => starts word ⟨isId, start⟩
          rw [replaceIdsFrom_char none_starts]
          refine .char none_starts (ih rest.length ?_ rest rfl)
          rw [List.length_cons] at hold
          omega

namespace ReplacesIds

variable {text replaced word : List Char}

theorem mem (replaces : ReplacesIds text replaced) {c : Char} (member : c ∈ replaced) :
    c ∈ idLabel ∨ c ∈ text := by
  induction replaces with
  | done => exact Or.inr member
  | id isId _ ih =>
    rcases List.mem_append.mp member with label | later
    · exact Or.inl label
    · exact (ih later).imp_right (List.mem_append_right _)
  | char _ _ ih =>
    rcases List.mem_cons.mp member with rfl | later
    · exact Or.inr List.mem_cons_self
    · exact (ih later).imp_right (List.mem_cons_of_mem _)

/-- Where no label has come in, nothing has been replaced. -/
theorem eq_of_brace_not_mem (replaces : ReplacesIds text replaced)
    (unlabelled : '\x7b' ∉ replaced) : replaced = text := by
  induction replaces with
  | done => rfl
  | id =>
    -- A label would have brought a brace with it.
    exact absurd List.mem_cons_self unlabelled
  | char _ _ ih => rw [ih fun later => unlabelled (List.mem_cons_of_mem _ later)]

theorem eq_of_no_id (replaces : ReplacesIds text replaced)
    (clean : ∀ word, IsId word → ¬word <:+: text) : replaced = text := by
  induction replaces with
  | done => rfl
  | @id word rest _ isId => exact absurd (List.prefix_append word rest).isInfix (clean word isId)
  | @char c rest _ _ _ ih =>
    rw [ih fun word isId stands => clean word isId (stands.trans (List.suffix_cons c rest).isInfix)]

/-- A start without braces comes from no label. -/
theorem starts_of_starts (replaces : ReplacesIds text replaced) (plain : '\x7b' ∉ word)
    (starts : word <+: replaced) : word <+: text := by
  induction replaces generalizing word with
  | done => exact starts
  | id =>
    have empty : word = [] := Text.eq_nil_of_starts plain starts
    rw [empty]
    exact List.nil_prefix
  | @char c rest _ _ _ ih =>
    rcases List.prefix_cons_iff.mp starts with rfl | ⟨more, rfl, later⟩
    · exact List.nil_prefix
    · have start := ih (fun member => plain (List.mem_cons_of_mem c member)) later
      exact (List.prefix_cons_inj c).mpr start

/-- No identifier is left, and none has come about across a label. -/
theorem clean (replaces : ReplacesIds text replaced) (isId : IsId word) :
    ¬word <:+: replaced := by
  induction replaces with
  | done =>
    intro stands
    exact isId.ne_nil (List.infix_nil.mp stands)
  | id _ _ ih =>
    intro stands
    -- A label is shorter than an identifier, and whatever reaches beyond it has its last brace.
    have closing : '\x7d' ∉ word := isId.not_mem (by decide) (by decide)
    rcases List.infix_append_iff.mp stands with inside | behind | ⟨left, right, rfl, ends, starts⟩
    · have short := inside.length_le
      rw [isId.length_eq] at short
      exact absurd short (by decide)
    · exact ih behind
    · rcases List.eq_nil_or_concat left with rfl | ⟨front, last, rfl⟩
      · exact ih starts.isInfix
      · obtain ⟨before, same⟩ := ends
        have final : last = '\x7d' := by
          have lasts := congrArg List.getLast? same
          simpa [idLabel] using lasts
        exact closing (by simp [final])
  | char none_starts rest ih =>
    intro stands
    rcases List.infix_cons_iff.mp stands with starts | behind
    · have opening : '\x7b' ∉ word := isId.not_mem (by decide) (by decide)
      have start := (ReplacesIds.char none_starts rest).starts_of_starts opening starts
      exact none_starts word isId start
    · exact ih behind

/-- No identifier reaches across a character of another kind. -/
theorem append {c : Char} (hyphen : c ≠ '-') (digit : Text.isHexDigit c = false)
    {other otherReplaced : List Char} (replaces : ReplacesIds text replaced)
    (others : ReplacesIds other otherReplaced) :
    ReplacesIds (text ++ c :: other) (replaced ++ c :: otherReplaced) := by
  induction replaces with
  | done =>
    refine .char (fun word isId starts => ?_) others
    exact isId.ne_nil (Text.eq_nil_of_starts (isId.not_mem hyphen digit) starts)
  | id isId _ ih =>
    rw [List.append_assoc, List.append_assoc]
    exact .id isId ih
  | char none_starts _ ih =>
    refine .char (fun word isId starts => ?_) ih
    exact none_starts word isId
      (Text.starts_of_starts_append (isId.not_mem hyphen digit) starts)

end ReplacesIds

theorem replacesIds (text : List Char) : ReplacesIds text (replaceIdsFrom 0 text) :=
  (replacesIds_iff text _).mpr rfl

theorem slash_not_mem_replaceIds {text : List Char} (whole : '/' ∉ text) :
    '/' ∉ replaceIdsFrom 0 text := by
  intro member
  rcases (replacesIds text).mem member with label | inside
  · exact absurd label (by decide)
  · exact whole inside

/-- Identifiers are replaced in each segment by itself. -/
theorem splitOn_replaceIds (text : List Char) :
    Text.splitOn '/' (replaceIdsFrom 0 text) =
      (Text.splitOn '/' text).map (replaceIdsFrom 0) := by
  induction text using Text.splitOn_induction '/' with
  | whole segment whole =>
    rw [Text.splitOn_of_not_mem whole, Text.splitOn_of_not_mem (slash_not_mem_replaceIds whole)]
    rfl
  | cut segment rest whole ih =>
    have parts := (replacesIds segment).append (c := '/') (by decide) (by decide)
      (replacesIds rest)
    rw [(replacesIds_iff _ _).mp parts, Text.splitOn_append_cons whole,
      Text.splitOn_append_cons (slash_not_mem_replaceIds whole), ih]
    rfl

end ImageVault.PathLabel
