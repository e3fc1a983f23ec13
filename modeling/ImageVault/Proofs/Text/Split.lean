import Mathlib.Data.List.TakeWhile
import ImageVault.Text.Split

/-!
# Splitting and joining

Splitting undoes joining as long as no piece contains the separator, and joining always
undoes splitting.
-/

namespace ImageVault.Text

variable {separator : Char}

theorem splitOn_of_not_mem {text : List Char} (whole : separator ∉ text) :
    splitOn separator text = [text] := by
  induction text with
  | nil => rfl
  | cons c rest ih =>
    rw [List.mem_cons, not_or] at whole
    rw [splitOn, if_neg (Ne.symm whole.1), ih whole.2]

theorem splitOn_ne_nil (separator : Char) (text : List Char) : splitOn separator text ≠ [] := by
  cases text with
  | nil => simp [splitOn]
  | cons c rest =>
    rw [splitOn]
    split
    · simp
    · split <;> simp

/-- A separator divides the pieces into those before it and those after it. -/
theorem splitOn_append (before after : List Char) :
    splitOn separator (before ++ separator :: after) =
      splitOn separator before ++ splitOn separator after := by
  induction before with
  | nil => simp [splitOn]
  | cons c more ih =>
    rw [List.cons_append, splitOn, splitOn]
    split
    next => rw [ih, List.cons_append]
    next =>
      obtain ⟨piece, pieces, cut⟩ := List.exists_cons_of_ne_nil (splitOn_ne_nil separator more)
      rw [ih, cut, List.cons_append, List.cons_append]

/-- A piece in front of a separator is cut off, whatever follows. -/
theorem splitOn_append_cons {piece : List Char} (whole : separator ∉ piece)
    (rest : List Char) :
    splitOn separator (piece ++ separator :: rest) = piece :: splitOn separator rest := by
  rw [splitOn_append, splitOn_of_not_mem whole, List.singleton_append]

/-- A text is one piece, or a piece in front of a separator and another text. -/
@[elab_as_elim]
theorem splitOn_induction (separator : Char) {motive : List Char → Prop}
    (whole : ∀ piece, separator ∉ piece → motive piece)
    (cut : ∀ piece rest, separator ∉ piece → motive rest → motive (piece ++ separator :: rest))
    (text : List Char) : motive text := by
  induction hold : text.length using Nat.strong_induction_on generalizing text with
  | _ length ih =>
    by_cases member : separator ∈ text
    · obtain ⟨piece, rest, rfl, apart⟩ := List.eq_append_cons_of_mem member
      refine cut piece rest apart (ih rest.length ?_ rest rfl)
      simp at hold
      omega
    · exact whole text member

/-- Each separator makes one piece more. -/
theorem splitOn_length (separator : Char) (text : List Char) :
    (splitOn separator text).length = text.count separator + 1 := by
  induction text using splitOn_induction separator with
  | whole piece apart => simp [splitOn_of_not_mem apart, List.count_eq_zero.mpr apart]
  | cut piece rest apart ih =>
    simp [splitOn_append_cons apart, List.count_eq_zero.mpr apart, ih]

theorem eq_nil_of_starts {word rest : List Char} (apart : separator ∉ word)
    (starts : word <+: separator :: rest) : word = [] := by
  rcases List.prefix_cons_iff.mp starts with empty | ⟨more, rfl, -⟩
  · exact empty
  · exact absurd List.mem_cons_self apart

/-- A word without separators that starts a text starts its first piece. -/
theorem starts_of_starts_append {word piece rest : List Char} (apart : separator ∉ word)
    (starts : word <+: piece ++ separator :: rest) : word <+: piece := by
  rcases List.prefix_or_prefix_of_prefix starts (List.prefix_append piece _) with
    inside | ⟨more, rfl⟩
  · exact inside
  · have beyond : more <+: separator :: rest := (List.prefix_append_right_inj piece).mp starts
    have none_left := eq_nil_of_starts (fun member => apart (List.mem_append_right piece member))
      beyond
    simp only [none_left, List.append_nil, List.prefix_rfl]

/-- A word without separators that stands in a text stands in one of its pieces. -/
theorem infix_mem_splitOn {word text : List Char} (present : word ≠ [])
    (apart : separator ∉ word) (stands : word <:+: text) :
    ∃ piece ∈ splitOn separator text, word <:+: piece := by
  induction text using splitOn_induction separator with
  | whole piece whole =>
    exact ⟨piece, by rw [splitOn_of_not_mem whole]; exact List.mem_singleton_self piece, stands⟩
  | cut piece rest whole ih =>
    rw [splitOn_append_cons whole]
    have first : word <:+: piece → ∃ other ∈ piece :: splitOn separator rest, word <:+: other :=
      fun inside => ⟨piece, List.mem_cons_self, inside⟩
    rcases List.infix_append_iff.mp stands with inside | behind | ⟨left, right, rfl, ends, starts⟩
    · exact first inside
    · rcases List.infix_cons_iff.mp behind with starts | later
      · exact absurd (eq_nil_of_starts apart starts) present
      · obtain ⟨other, chosen, inside⟩ := ih later
        exact ⟨other, List.mem_cons_of_mem piece chosen, inside⟩
    · -- What reaches beyond the piece would hold the separator.
      have none_right := eq_nil_of_starts
        (fun member => apart (List.mem_append_right left member)) starts
      rw [none_right, List.append_nil] at first ⊢
      exact first ends.isInfix

/-- The pieces hold the characters of the text, the separator apart. -/
theorem mem_splitOn {text piece : List Char} {c : Char} (chosen : piece ∈ splitOn separator text)
    (member : c ∈ piece) : c ∈ text ∧ c ≠ separator := by
  induction text generalizing piece with
  | nil =>
    rw [splitOn, List.mem_singleton] at chosen
    rw [chosen] at member
    cases member
  | cons d rest ih =>
    have later : ∀ {other}, other ∈ splitOn separator rest → c ∈ other →
        c ∈ d :: rest ∧ c ≠ separator := fun chosen member =>
      (ih chosen member).imp_left (List.mem_cons_of_mem d)
    obtain ⟨first, pieces, cut⟩ := List.exists_cons_of_ne_nil (splitOn_ne_nil separator rest)
    rw [cut] at later
    rw [splitOn, cut] at chosen
    split at chosen
    next =>
      rcases List.mem_cons.mp chosen with rfl | chosen
      · cases member
      · exact later chosen member
    next other =>
      rcases List.mem_cons.mp chosen with rfl | chosen
      · rcases List.mem_cons.mp member with rfl | member
        · exact ⟨List.mem_cons_self, other⟩
        · exact later List.mem_cons_self member
      · exact later (List.mem_cons_of_mem first chosen) member

theorem joinWith_cons_cons (separator : Char) (piece next : List Char)
    (pieces : List (List Char)) :
    joinWith separator (piece :: next :: pieces) =
      piece ++ separator :: joinWith separator (next :: pieces) :=
  rfl

theorem cutAt_of_not_mem {text : List Char} (whole : separator ∉ text) :
    cutAt separator text = (text, none) := by
  have dropped : text.dropWhile (· ≠ separator) = [] := by
    refine List.dropWhile_eq_nil_iff.mpr fun c member => decide_eq_true ?_
    rintro rfl
    exact whole member
  rw [cutAt, dropped]

/-- What stands in front of a cut holds no separator. -/
theorem cutAt_append_cons {before : List Char} (whole : separator ∉ before)
    (after : List Char) :
    cutAt separator (before ++ separator :: after) = (before, some after) := by
  have others : ∀ c ∈ before, decide (c ≠ separator) = true := by
    intro c member
    refine decide_eq_true ?_
    rintro rfl
    exact whole member
  have dropped : (before ++ separator :: after).dropWhile (· ≠ separator) =
      separator :: after := by
    rw [List.dropWhile_append_of_pos others, List.dropWhile_cons_of_neg (by simp)]
  have taken : (before ++ separator :: after).takeWhile (· ≠ separator) = before := by
    rw [List.takeWhile_append_of_pos others, List.takeWhile_cons_of_neg (by simp),
      List.append_nil]
  rw [cutAt, dropped, taken]

/-- Two texts that are equal are cut alike. -/
theorem cut_unique {before otherBefore after otherAfter : List Char}
    (whole : separator ∉ before) (otherWhole : separator ∉ otherBefore)
    (same : before ++ separator :: after = otherBefore ++ separator :: otherAfter) :
    before = otherBefore ∧ after = otherAfter := by
  have cut := congrArg (cutAt separator) same
  rw [cutAt_append_cons whole, cutAt_append_cons otherWhole] at cut
  exact ⟨congrArg (·.1) cut, Option.some.inj (congrArg (·.2) cut)⟩

theorem cutAt_fst (separator : Char) (text : List Char) :
    (cutAt separator text).1 = text.takeWhile (· ≠ separator) := by
  unfold cutAt
  split
  next nothing =>
    rw [List.dropWhile_eq_nil_iff] at nothing
    rw [List.takeWhile_eq_self_iff.mpr nothing]
  next => rfl

/-- A cut text consists of what stands before the separator and what follows it. -/
theorem cutAt_eq_some {text before after : List Char}
    (cut : cutAt separator text = (before, some after)) :
    text = before ++ separator :: after ∧ separator ∉ before := by
  unfold cutAt at cut
  split at cut
  · cases cut
  next found rest dropped =>
    obtain ⟨rfl, rfl⟩ : text.takeWhile (· ≠ separator) = before ∧ rest = after := by
      simpa using cut
    have same : found = separator := by
      have first := List.head?_dropWhile_not (· ≠ separator) text
      rw [dropped] at first
      simpa using first
    constructor
    · rw [← same, ← dropped, same]
      exact List.takeWhile_append_dropWhile.symm
    · intro member
      simpa using List.mem_takeWhile_imp member

theorem joinWith_append (separator : Char) {before after : List (List Char)}
    (left : before ≠ []) (right : after ≠ []) :
    joinWith separator (before ++ after) =
      joinWith separator before ++ separator :: joinWith separator after := by
  induction before with
  | nil => exact (left rfl).elim
  | cons piece pieces ih =>
    cases pieces with
    | nil =>
      obtain ⟨next, more, rfl⟩ := List.exists_cons_of_ne_nil right
      rfl
    | cons next more =>
      have rest := ih (List.cons_ne_nil next more)
      rw [List.cons_append] at rest
      rw [joinWith_cons_cons, List.cons_append, List.cons_append, joinWith_cons_cons, rest,
        List.append_assoc, List.cons_append]

/-- What is joined holds separators and the characters of the pieces, and nothing else. -/
theorem mem_joinWith {pieces : List (List Char)} {c : Char}
    (member : c ∈ joinWith separator pieces) : c = separator ∨ ∃ piece ∈ pieces, c ∈ piece := by
  induction pieces with
  | nil => cases member
  | cons piece pieces ih =>
    cases pieces with
    | nil => exact Or.inr ⟨piece, List.mem_singleton.mpr rfl, member⟩
    | cons next more =>
      rw [joinWith_cons_cons, List.mem_append, List.mem_cons] at member
      rcases member with inside | same | later
      · exact Or.inr ⟨piece, List.mem_cons_self, inside⟩
      · exact Or.inl same
      · obtain same | ⟨other, chosen, inside⟩ := ih later
        · exact Or.inl same
        · exact Or.inr ⟨other, List.mem_cons_of_mem _ chosen, inside⟩

theorem splitOn_joinWith {pieces : List (List Char)} (some_piece : pieces ≠ [])
    (whole : ∀ piece ∈ pieces, separator ∉ piece) :
    splitOn separator (joinWith separator pieces) = pieces := by
  induction pieces with
  | nil => exact (some_piece rfl).elim
  | cons piece pieces ih =>
    cases pieces with
    | nil => exact splitOn_of_not_mem (whole piece (List.mem_singleton.mpr rfl))
    | cons next more =>
      have later : splitOn separator (joinWith separator (next :: more)) = next :: more :=
        ih (List.cons_ne_nil _ _) fun other member => whole other (List.mem_cons_of_mem _ member)
      rw [joinWith_cons_cons, splitOn_append_cons (whole piece List.mem_cons_self), later]

theorem joinWith_splitOn (separator : Char) (text : List Char) :
    joinWith separator (splitOn separator text) = text := by
  induction text with
  | nil => rfl
  | cons c rest ih =>
    obtain ⟨piece, pieces, cut⟩ := List.exists_cons_of_ne_nil (splitOn_ne_nil separator rest)
    rw [cut] at ih
    rw [splitOn, cut]
    split
    next same => rw [joinWith_cons_cons, ih, same, List.nil_append]
    next other =>
      -- The first piece grows by one character; what follows it stays.
      cases pieces with
      | nil => exact congrArg (c :: ·) ih
      | cons next pieces =>
        rw [joinWith_cons_cons, List.cons_append, ← joinWith_cons_cons, ih]

/-- A text whose image consists of groups consists of groups itself, if only the separator
becomes a separator. -/
theorem exists_groups_of_map {separator : Char} {change : Char → Char}
    (only : ∀ c, change c = separator → c = separator) {groups : List (List Char)}
    {text : List Char} (same : text.map change = joinWith separator groups) :
    ∃ originals, originals.map (List.map change) = groups ∧
      text = joinWith separator originals := by
  induction groups generalizing text with
  | nil => exact ⟨[], rfl, List.map_eq_nil_iff.mp same⟩
  | cons group groups ih =>
    -- What stands in front of the first separator is the first group, both before and after.
    cases groups with
    | nil => exact ⟨[text], congrArg (fun changed => [changed]) same, rfl⟩
    | cons next groups =>
      rw [joinWith_cons_cons, List.map_eq_append_iff] at same
      obtain ⟨original, behind, rfl, rfl, rest⟩ := same
      obtain ⟨c, rest, rfl, hyphen, later⟩ := List.map_eq_cons_iff.mp rest
      obtain ⟨originals, others, rfl⟩ := ih later
      refine ⟨original :: originals, by rw [List.map_cons, others], ?_⟩
      cases originals with
      | nil => cases others
      | cons other originals => rw [joinWith_cons_cons, only c hyphen]

end ImageVault.Text
