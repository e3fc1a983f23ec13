import Mathlib.Data.List.DropRight
import ImageVault.Text.Blank

/-!
# The ends of a text

Trimming drops the characters of a class from both ends of a text, and nothing from its middle.
What it leaves is determined by that, whichever class it is: braces around an identifier, blanks
around a declaration (`trim_eq_iff`).
-/

namespace ImageVault.Text

variable {p : Char → Bool} {text core : List Char}

/-- The text without the characters of the class at its ends. -/
def stripEnds (p : Char → Bool) (text : List Char) : List Char :=
  (text.dropWhile p).rdropWhile p

/-- No character of the class stands at an end of the text. -/
structure HasBareEnds (p : Char → Bool) (text : List Char) : Prop where
  first : ∀ c, text.head? = some c → p c = false
  last : ∀ c, text.getLast? = some c → p c = false

/-- A text without any character of the class has none at its ends. -/
theorem hasBareEnds_of_forall (none_inside : ∀ c ∈ text, p c = false) : HasBareEnds p text := by
  constructor
  · intro c first
    exact none_inside c (List.mem_of_head? first)
  · intro c last
    exact none_inside c (List.mem_of_getLast? last)

theorem HasBareEnds.dropWhile_eq (bare : HasBareEnds p text) : text.dropWhile p = text := by
  cases text with
  | nil => rfl
  | cons c rest =>
    have kept : p c = false := bare.first c rfl
    rw [List.dropWhile_cons_of_neg (by simp [kept])]

theorem HasBareEnds.rdropWhile_eq (bare : HasBareEnds p text) : text.rdropWhile p = text := by
  rw [List.rdropWhile_eq_self_iff]
  intro nonempty
  have kept := bare.last _ (List.getLast?_eq_some_getLast nonempty)
  simp [kept]

theorem hasBareEnds_stripEnds (p : Char → Bool) (text : List Char) :
    HasBareEnds p (stripEnds p text) := by
  constructor
  · intro c first
    -- The first character that is left is the first one that was not dropped in front.
    have front : (text.dropWhile p).head? = some c := by
      obtain ⟨behind, whole⟩ := List.rdropWhile_prefix p (text.dropWhile p)
      rw [← whole, List.head?_append]
      rw [stripEnds] at first
      rw [first]
      rfl
    have stopped := List.head?_dropWhile_not p text
    simpa [front] using stopped
  · intro c last
    have nonempty : stripEnds p text ≠ [] := by
      intro nothing
      rw [nothing] at last
      cases last
    have stopped := List.rdropWhile_last_not p (text.dropWhile p) nonempty
    rw [List.getLast?_eq_some_getLast nonempty] at last
    have same := Option.some.inj last
    change ¬p ((stripEnds p text).getLast nonempty) = true at stopped
    rw [same] at stopped
    simpa using stopped

theorem exists_ends (p : Char → Bool) (text : List Char) :
    ∃ before after, text = before ++ stripEnds p text ++ after ∧
      (∀ c ∈ before, p c = true) ∧ ∀ c ∈ after, p c = true := by
  refine ⟨text.takeWhile p, (text.dropWhile p).rtakeWhile p, ?_, ?_, ?_⟩
  · rw [stripEnds, List.append_assoc, List.rdropWhile_append_rtakeWhile,
      List.takeWhile_append_dropWhile]
  · intro c member
    exact List.mem_takeWhile_imp member
  · intro c member
    exact List.mem_rtakeWhile_imp member

/-- What stands around a part with bare ends is dropped, and the part is kept. -/
theorem HasBareEnds.stripEnds_append (bare : HasBareEnds p core) {before after : List Char}
    (front : ∀ c ∈ before, p c = true) (back : ∀ c ∈ after, p c = true) :
    stripEnds p (before ++ core ++ after) = core := by
  rw [stripEnds, List.append_assoc, List.dropWhile_append_of_pos front]
  cases core with
  | nil =>
    rw [List.nil_append, List.dropWhile_eq_nil_iff.mpr back]
    exact List.rdropWhile_nil p
  | cons c rest =>
    have kept : p c = false := bare.first c rfl
    rw [List.cons_append, List.dropWhile_cons_of_neg (by simp [kept]), ← List.cons_append]
    have reversed : ∀ c ∈ after.reverse, p c = true := by
      intro c member
      exact back c (List.mem_reverse.mp member)
    rw [List.rdropWhile, List.reverse_append, List.dropWhile_append_of_pos reversed]
    exact bare.rdropWhile_eq

theorem HasBareEnds.stripEnds_eq (bare : HasBareEnds p text) : stripEnds p text = text := by
  rw [stripEnds, bare.dropWhile_eq, bare.rdropWhile_eq]

/-- The middle part that is left has no blank at its ends, and there is no other such part. -/
theorem trim_eq_iff (text core : List Char) :
    trim text = core ↔ HasBareEnds isBlank core ∧ ∃ before after,
      text = before ++ core ++ after ∧ (∀ c ∈ before, isBlank c = true) ∧
        ∀ c ∈ after, isBlank c = true := by
  constructor
  · rintro rfl
    exact ⟨hasBareEnds_stripEnds isBlank text, exists_ends isBlank text⟩
  · rintro ⟨bare, before, after, rfl, front, back⟩
    exact bare.stripEnds_append front back

end ImageVault.Text
