import Mathlib.Tactic.Common
import ImageVault.Proofs.Metrics.PathLabel
import ImageVault.Proofs.Uuid

/-!
# Spellings of an identifier in a path

The digits of an identifier are grouped by hyphens in two places: where it is written and read,
and where labels look for it. Both mean the same words (`isId_iff_hyphenate`). What is read
besides is told apart by `Spelling`, with what becomes of it in the label of a path.
-/

namespace ImageVault

namespace Uuid

open PathLabel

/-! ### The canonical grouping -/

/-- What is grouped as identifiers are written is what labels take for an identifier. -/
theorem isId_iff_hyphenate (word : List Char) :
    IsId word ↔ ∃ digits : List Char, digits.length = 32 ∧
      (∀ c ∈ digits, Text.isHexDigit c = true) ∧ word = hyphenate digits := by
  constructor
  · intro isId
    obtain ⟨a, b, c, d, e, ha, hb, hc, hd, he, hex, rfl⟩ := isId.exists_groups
    -- The groups put together; cutting them apart again drops whole groups only.
    refine ⟨a ++ b ++ c ++ d ++ e, by simp [ha, hb, hc, hd, he], hex, ?_⟩
    simp [hyphenate, List.drop_append, List.drop_eq_nil_of_le, ha, hb, hc, hd]
  · rintro ⟨digits, all, hex, rfl⟩
    have group : ∀ start count, ∀ c ∈ (digits.drop start).take count, Text.isHexDigit c = true :=
      fun start count c member => hex c (List.mem_of_mem_drop (List.mem_of_mem_take member))
    refine ⟨[(digits.drop 0).take 8, (digits.drop 8).take 4, (digits.drop 12).take 4,
      (digits.drop 16).take 4, (digits.drop 20).take 12], by simp [all], ?_, ?_⟩
    · simp only [List.forall_mem_cons, List.not_mem_nil]
      exact ⟨group 0 8, group 8 4, group 12 4, group 16 4, group 20 12, fun _ => False.elim⟩
    · have last : (digits.drop 20).take 12 = digits.drop 20 :=
        List.take_of_length_le (by simp [all])
      simp [hyphenate, Text.joinWith, last]

theorem isId_chars (id : Uuid) : IsId id.chars := by
  refine (isId_iff_hyphenate _).mpr ⟨id.digits, id.digits_length, fun c member => ?_, rfl⟩
  obtain ⟨digit, small, rfl⟩ := Text.mem_hexPadded member
  simp [Text.isHexDigit, Text.hexValue?_hexDigit small]

/-- Identifiers in canonical text, with letters of either case. -/
theorem isId_of_toLower {id : Uuid} {text : String} (same : text.toLower = id.text) :
    IsId text.toList := by
  obtain ⟨groups, lengths, hex, grouped⟩ := id.isId_chars
  have lowered : text.toList.map Char.toLower = Text.joinWith '-' groups := by
    have mapped : text.map Char.toLower = id.text := same
    rw [← grouped, ← String.toList_map, mapped, Uuid.text, String.toList_ofList]
  obtain ⟨originals, rfl, spelled⟩ :=
    Text.exists_groups_of_map (fun _ => Text.eq_hyphen_of_toLower) lowered
  -- Letters in the other case are digits as well, and the groups keep their lengths.
  refine ⟨originals, by simpa [Function.comp_def] using lengths, ?_, spelled⟩
  intro group member c inside
  have digit := hex _ (List.mem_map_of_mem member) _ (List.mem_map_of_mem inside)
  exact Text.isHexDigit_of_toLower digit

theorem isSome_ofDigits?_iff (digits : List Char) :
    (ofDigits? digits).isSome = true ↔
      digits.length = 32 ∧ ∀ c ∈ digits, Text.isHexDigit c = true := by
  constructor
  · intro spelled
    unfold ofDigits? at spelled
    split at spelled
    next all =>
      cases read : Text.hexNumber? digits with
      | none => simp [read] at spelled
      | some number => exact ⟨all, Text.hexDigits_of_hexNumber? read⟩
    next => cases spelled
  · rintro ⟨all, hex⟩
    obtain ⟨number, bound, read⟩ := Text.hexNumber?_of_hexDigits hex
    have small : number < 1 <<< 128 := by
      rw [all] at bound
      exact bound
    rw [ofDigits?, if_pos all, read, Option.bind_some, ofNat?, dif_pos small]
    rfl

/-- A text with a character in this place is cut there. -/
theorem exists_cut {text : List Char} {place : Nat} {c : Char} (found : text[place]? = some c) :
    ∃ before after, before.length = place ∧ text = before ++ c :: after := by
  obtain ⟨bound, same⟩ := List.getElem?_eq_some_iff.mp found
  refine ⟨text.take place, text.drop (place + 1), List.length_take_of_le bound.le, ?_⟩
  rw [← same, List.getElem_cons_drop, List.take_append_drop]

theorem ofGroups?_eq (text : List Char) :
    ofGroups? text =
      if text.length = 36 ∧
          ([8, 13, 18, 23].all fun place => text[place]? = some '-') = true then
        ofDigits? (text.filter (· ≠ '-'))
      else none := by
  by_cases long : text.length = 36
  · by_cases placed : ([8, 13, 18, 23].all fun place => text[place]? = some '-') = true
    · simp only [ofGroups?, guard, long, placed]
      rfl
    · simp only [ofGroups?, guard, long, placed]
      rfl
  · simp only [ofGroups?, guard, long]
    rfl

/-- The groups between hyphens in their places. -/
theorem exists_groups_of_places {text : List Char} (long : text.length = 36)
    (placed : ([8, 13, 18, 23].all fun place => text[place]? = some '-') = true) :
    ∃ a b c d e : List Char, a.length = 8 ∧ b.length = 4 ∧ c.length = 4 ∧ d.length = 4 ∧
      e.length = 12 ∧ text = a ++ '-' :: (b ++ '-' :: (c ++ '-' :: (d ++ '-' :: e))) := by
  simp only [List.all_cons, List.all_nil, Bool.and_true, Bool.and_eq_true,
    decide_eq_true_eq] at placed
  obtain ⟨first, second, third, fourth⟩ := placed
  obtain ⟨a, text, ha, rfl⟩ := exists_cut first
  -- Behind a hyphen the places of the others are counted anew.
  have second : text[4]? = some '-' := by simpa [List.getElem?_append, ha] using second
  have third : text[9]? = some '-' := by simpa [List.getElem?_append, ha] using third
  have fourth : text[14]? = some '-' := by simpa [List.getElem?_append, ha] using fourth
  obtain ⟨b, text, hb, rfl⟩ := exists_cut second
  have third : text[4]? = some '-' := by simpa [List.getElem?_append, hb] using third
  have fourth : text[9]? = some '-' := by simpa [List.getElem?_append, hb] using fourth
  obtain ⟨c, text, hc, rfl⟩ := exists_cut third
  have fourth : text[4]? = some '-' := by simpa [List.getElem?_append, hc] using fourth
  obtain ⟨d, e, hd, rfl⟩ := exists_cut fourth
  refine ⟨a, b, c, d, e, ha, hb, hc, hd, ?_, rfl⟩
  simp [ha, hb, hc, hd] at long
  omega

/-- The grouped spellings that are read are the words that labels take for identifiers. -/
theorem isSome_ofGroups?_iff (text : List Char) : (ofGroups? text).isSome = true ↔ IsId text := by
  rw [ofGroups?_eq]
  constructor
  · intro spelled
    split at spelled
    next fits =>
      obtain ⟨all, hex⟩ := (isSome_ofDigits?_iff _).mp spelled
      obtain ⟨a, b, c, d, e, ha, hb, hc, hd, he, rfl⟩ := exists_groups_of_places fits.1 fits.2
      simp only [List.filter_append, List.filter_cons_of_neg, ne_eq, not_true_eq_false,
        decide_false, Bool.false_eq_true, not_false_eq_true] at all hex
      simp only [List.length_append] at all
      -- With 32 digits left, no group can have lost a character.
      have short : ∀ part : List Char, (part.filter (¬ · = '-')).length ≤ part.length :=
        List.length_filter_le _
      have kept : ∀ part : List Char, (part.filter (¬ · = '-')).length = part.length →
          part.filter (¬ · = '-') = part := fun part same => List.filter_sublist.eq_of_length same
      have shortA := short a
      have shortB := short b
      have shortC := short c
      have shortD := short d
      have shortE := short e
      rw [kept a (by omega), kept b (by omega), kept c (by omega), kept d (by omega),
        kept e (by omega)] at hex
      refine ⟨[a, b, c, d, e], by simp [ha, hb, hc, hd, he], ?_, rfl⟩
      simpa [or_imp, forall_and] using hex
    next => cases spelled
  · intro isId
    obtain ⟨digits, all, hex, rfl⟩ := (isId_iff_hyphenate text).mp isId
    have plain : '-' ∉ digits := fun member => absurd (hex _ member) (by decide)
    rw [if_pos ⟨hyphenate_length all, hyphenate_places all⟩, filter_hyphenate plain]
    exact (isSome_ofDigits?_iff digits).mpr ⟨all, hex⟩

/-! ### What is read, and what is shown -/

/-- The spellings that are read, with what labels show in their place. The digits without
hyphens are shown as they are; where the grouping stands, it alone is replaced. -/
inductive Spelling : List Char → List Char → Prop
  | bare {digits : List Char} : digits.length = 32 →
      (∀ c ∈ digits, Text.isHexDigit c = true) → Spelling digits digits
  | grouped {word : List Char} : IsId word → Spelling word idLabel
  | braced {word : List Char} : IsId word →
      Spelling ('\x7b' :: (word ++ ['\x7d'])) ('\x7b' :: (idLabel ++ ['\x7d']))
  | named {word : List Char} : IsId word →
      Spelling (namespacePrefix ++ word) (namespacePrefix ++ idLabel)

variable {segment shown : List Char}

theorem namespacePrefix_length : namespacePrefix.length = 9 :=
  rfl

theorem braced_of_ends {text : List Char} (long : text.length = 38)
    (opened : text.head? = some '\x7b') (closed : text.getLast? = some '\x7d') :
    text = '\x7b' :: ((text.drop 1).take 36 ++ ['\x7d']) := by
  cases text with
  | nil => cases opened
  | cons first rest =>
    obtain rfl : first = '\x7b' := by simpa using opened
    rcases List.eq_nil_or_concat rest with rfl | ⟨inner, last, rfl⟩
    · cases long
    · have size : inner.length = 36 := by simpa using long
      have final : last = '\x7d' := by
        rw [List.concat_eq_append, ← List.cons_append, List.getLast?_concat] at closed
        exact Option.some.inj closed
      simp [← size, final]

/-- Exactly these spellings are read. -/
theorem isSome_ofStrict?_iff (segment : List Char) :
    (ofStrict? segment).isSome = true ↔ ∃ shown, Spelling segment shown := by
  constructor
  · intro spelled
    unfold ofStrict? at spelled
    -- The length tells which spelling it must be.
    split at spelled
    next =>
      obtain ⟨all, hex⟩ := (isSome_ofDigits?_iff segment).mp spelled
      exact ⟨segment, .bare all hex⟩
    next =>
      split at spelled
      next =>
        have isId := (isSome_ofGroups?_iff segment).mp spelled
        exact ⟨idLabel, .grouped isId⟩
      next =>
        split at spelled
        next fits =>
          have isId := (isSome_ofGroups?_iff _).mp spelled
          simp only [Bool.and_eq_true, decide_eq_true_eq] at fits
          obtain ⟨⟨long, opened⟩, closed⟩ := fits
          rw [braced_of_ends long opened closed]
          exact ⟨_, .braced isId⟩
        next =>
          split at spelled
          next fits =>
            have isId := (isSome_ofGroups?_iff _).mp spelled
            simp only [Bool.and_eq_true, decide_eq_true_eq] at fits
            obtain ⟨word, same⟩ := List.isPrefixOf_iff_prefix.mp fits.2
            rw [← same, List.drop_left] at isId
            rw [← same]
            exact ⟨_, .named isId⟩
          next => cases spelled
  · rintro ⟨shown, spelling⟩
    cases spelling with
    | bare all hex =>
      rw [ofStrict?, if_pos all]
      exact (isSome_ofDigits?_iff segment).mpr ⟨all, hex⟩
    | grouped isId =>
      have long := isId.length_eq
      rw [ofStrict?, if_neg (by omega), if_pos long]
      exact (isSome_ofGroups?_iff segment).mpr isId
    | @braced word isId =>
      have long := isId.length_eq
      have closed : ('\x7b' :: (word ++ ['\x7d'])).getLast? = some '\x7d' := by
        rw [← List.cons_append, List.getLast?_concat]
      have read := (isSome_ofGroups?_iff word).mpr isId
      simp [ofStrict?, long, closed, read]
    | @named word isId =>
      have long := isId.length_eq
      have marked : namespacePrefix ≠ [] := by decide
      have behind : (namespacePrefix ++ word).drop 9 = word :=
        List.drop_left' namespacePrefix_length
      have read := (isSome_ofGroups?_iff word).mpr isId
      simp [ofStrict?, long, namespacePrefix_length, marked, behind, read]

namespace Spelling

/-- All that labels replace in a spelling is the grouping. -/
theorem replacesIds (spelling : Spelling segment shown) : ReplacesIds segment shown := by
  have alone : ∀ {word}, IsId word → ReplacesIds word idLabel := by
    intro word isId
    simpa using ReplacesIds.id isId .done
  cases spelling with
  | bare all hex =>
    apply (replacesIds_iff _ _).mpr
    exact replaceIds_of_not_mem fun member => absurd (hex _ member) (by decide)
  | grouped isId => exact alone isId
  | braced isId =>
    have closed := (alone isId).append (c := '\x7d') (by decide) (by decide) .done
    exact ReplacesIds.done.append (c := '\x7b') (by decide) (by decide) closed
  | named isId =>
    -- The colon parts the identifier from the letters in front, of which some are digits.
    have front : ReplacesIds "urn:uuid".toList "urn:uuid".toList :=
      (replacesIds_iff _ _).mpr (replaceIds_of_not_mem (by decide))
    exact front.append (c := ':') (by decide) (by decide) (alone isId)

theorem not_isName (spelling : Spelling segment shown) : ¬IsName segment := by
  intro isName
  cases spelling with
  | bare all hex => exact absurd (hex _ isName.point_mem) (by decide)
  | grouped isId => exact isName.hyphen_not_mem isId.hyphen_mem
  | braced isId =>
    apply isName.hyphen_not_mem
    simp [isId.hyphen_mem]
  | named isId =>
    apply isName.hyphen_not_mem
    simp [isId.hyphen_mem]

/-- What is shown is what becomes of the segment inside a path. -/
theorem ofSegment_eq (spelling : Spelling segment shown) :
    ofSegment false false segment = shown := by
  apply (labels_iff false false segment shown).mp
  exact .other (fun _ => ⟨spelling.not_isName, fun _ last => by cases last⟩) spelling.replacesIds

theorem mem (spelling : Spelling segment shown) {c : Char} (member : c ∈ segment) :
    Text.isHexDigit c = true ∨ c ∈ "urn:uuid:-\x7b\x7d".toList := by
  have inside : ∀ {word}, IsId word → c ∈ word →
      Text.isHexDigit c = true ∨ c ∈ "urn:uuid:-\x7b\x7d".toList := by
    intro word isId member
    rcases isId.mem member with rfl | digit
    · exact Or.inr (by decide)
    · exact Or.inl digit
  cases spelling with
  | bare all hex => exact Or.inl (hex c member)
  | grouped isId => exact inside isId member
  | braced isId =>
    rcases List.mem_cons.mp member with rfl | member
    · exact Or.inr (by decide)
    · rcases List.mem_append.mp member with member | closing
      · exact inside isId member
      · obtain rfl := List.mem_singleton.mp closing
        exact Or.inr (by decide)
  | named isId =>
    rcases List.mem_append.mp member with front | member
    · have letters : namespacePrefix ⊆ "urn:uuid:-\x7b\x7d".toList := by decide
      exact Or.inr (letters front)
    · exact inside isId member

/-- The length of a spelling tells which one it is, and so does the length of what is shown. -/
theorem lengths (spelling : Spelling segment shown) :
    segment.length = 32 ∧ shown = segment ∨ segment.length = 36 ∧ shown = idLabel ∨
      segment.length = 38 ∧ shown.length = 6 ∨ segment.length = 45 ∧ shown.length = 13 := by
  cases spelling with
  | bare all => exact Or.inl ⟨all, rfl⟩
  | grouped isId => exact Or.inr (Or.inl ⟨isId.length_eq, rfl⟩)
  | braced isId =>
    apply Or.inr ∘ Or.inr ∘ Or.inl
    simp [isId.length_eq, idLabel]
  | named isId =>
    apply Or.inr ∘ Or.inr ∘ Or.inr
    simp [isId.length_eq, namespacePrefix_length, idLabel]

/-- The label stands alone exactly for the canonical grouping. -/
theorem shown_eq_idLabel_iff (spelling : Spelling segment shown) :
    shown = idLabel ↔ segment.length = 36 := by
  have short : idLabel.length = 4 := rfl
  constructor
  · rintro rfl
    rcases spelling.lengths with ⟨all, same⟩ | ⟨long, -⟩ | ⟨-, long⟩ | ⟨-, long⟩
    · rw [← same] at all
      omega
    · exact long
    · omega
    · omega
  · intro long
    rcases spelling.lengths with ⟨other, -⟩ | ⟨-, label⟩ | ⟨other, -⟩ | ⟨other, -⟩
    · omega
    · exact label
    · omega
    · omega

/-- Digits without hyphens are shown as they are. -/
theorem shown_eq (spelling : Spelling segment shown) (bare : segment.length = 32) :
    shown = segment := by
  rcases spelling.lengths with ⟨-, same⟩ | ⟨other, -⟩ | ⟨other, -⟩ | ⟨other, -⟩
  · exact same
  · omega
  · omega
  · omega

/-- Nothing but the digits without hyphens is shown with 32 characters. -/
theorem eq_shown (spelling : Spelling segment shown) (long : shown.length = 32) :
    segment = shown := by
  have short : idLabel.length = 4 := rfl
  rcases spelling.lengths with ⟨-, same⟩ | ⟨-, rfl⟩ | ⟨-, other⟩ | ⟨-, other⟩
  · exact same.symm
  · omega
  · omega
  · omega

end Spelling

end Uuid

end ImageVault
