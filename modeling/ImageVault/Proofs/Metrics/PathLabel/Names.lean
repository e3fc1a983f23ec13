import ImageVault.Metrics.PathLabel
import ImageVault.Proofs.Text.Split

/-!
# Generated names in a path

A generated name is replaced only where it fills a segment behind a slash. So each segment is
replaced by itself, as soon as it is known whether it is the last one: there a final line break
does not count.
-/

namespace ImageVault.PathLabel

/-! ### Words that are names -/

/-- Hexadecimal digits in lower case, and one of the two extensions. -/
def IsName (word : List Char) : Prop :=
  ∃ digits extension : List Char, digits ≠ [] ∧ (∀ c ∈ digits, isLowerHexDigit c = true) ∧
    (extension = ".jpeg".toList ∨ extension = ".png".toList) ∧ word = digits ++ extension

/-- What may follow where a segment ends. -/
def EndsSegment (rest : List Char) : Prop :=
  rest = [] ∨ rest = ['\n'] ∨ ∃ more, rest = '/' :: more

/-- Somewhere behind a slash a generated name fills a segment. -/
def HoldsName (text : List Char) : Prop :=
  ∃ before name rest, text = before ++ '/' :: (name ++ rest) ∧ IsName name ∧ EndsSegment rest

theorem endsSegment_iff (rest : List Char) : endsSegment rest = true ↔ EndsSegment rest := by
  unfold endsSegment EndsSegment
  split <;> simp_all

theorem IsName.not_mem {name : List Char} (isName : IsName name) {c : Char}
    (digit : isLowerHexDigit c = false) (letter : c ∉ ".jpegn".toList) : c ∉ name := by
  obtain ⟨digits, extension, -, lower, known, rfl⟩ := isName
  intro member
  rcases List.mem_append.mp member with inside | ending
  · have isDigit := lower c inside
    rw [digit] at isDigit
    cases isDigit
  · have letters : ".jpeg".toList ⊆ ".jpegn".toList ∧ ".png".toList ⊆ ".jpegn".toList := by decide
    rcases known with rfl | rfl
    · exact letter (letters.1 ending)
    · exact letter (letters.2 ending)

theorem IsName.slash_not_mem {name : List Char} (isName : IsName name) : '/' ∉ name :=
  isName.not_mem (by decide) (by decide)

theorem IsName.brace_not_mem {name : List Char} (isName : IsName name) : '\x7b' ∉ name :=
  isName.not_mem (by decide) (by decide)

theorem IsName.point_mem {name : List Char} (isName : IsName name) : '.' ∈ name := by
  obtain ⟨digits, extension, -, -, known, rfl⟩ := isName
  rcases known with rfl | rfl <;> simp

/-- The digits of a name are all that can be taken, for an extension starts with a point. -/
theorem digits_taken {digits extension : List Char}
    (lower : ∀ c ∈ digits, isLowerHexDigit c = true)
    (known : extension = ".jpeg".toList ∨ extension = ".png".toList) (rest : List Char) :
    (digits ++ (extension ++ rest)).takeWhile isLowerHexDigit = digits ∧
    (digits ++ (extension ++ rest)).dropWhile isLowerHexDigit = extension ++ rest := by
  obtain ⟨ending, pointed⟩ : ∃ ending, extension ++ rest = '.' :: ending := by
    rcases known with rfl | rfl <;> exact ⟨_, rfl⟩
  have point : isLowerHexDigit '.' = false := by decide
  rw [pointed, List.takeWhile_append_of_pos lower, List.dropWhile_append_of_pos lower]
  simp [point]

theorem nameLength?_eq_some_iff (text : List Char) (length : Nat) :
    nameLength? text = some length ↔ ∃ name rest, text = name ++ rest ∧ IsName name ∧
      EndsSegment rest ∧ name.length = length := by
  constructor
  · intro found
    -- What was taken are digits, an extension follows them, and there the segment ends.
    unfold nameLength? at found
    dsimp only at found
    split at found
    · cases found
    next some_digit =>
      obtain ⟨extension, listed, fits⟩ := List.exists_of_findSome?_eq_some found
      split at fits
      next filled =>
        obtain ⟨starts, ends⟩ := Bool.and_eq_true_iff.mp filled
        obtain ⟨rest, same⟩ := List.isPrefixOf_iff_prefix.mp starts
        rw [← same, List.drop_left, endsSegment_iff] at ends
        have known : extension = ".jpeg".toList ∨ extension = ".png".toList := by
          simpa using listed
        refine ⟨text.takeWhile isLowerHexDigit ++ extension, rest, ?_,
          ⟨_, extension, ?_, fun c => List.mem_takeWhile_imp, known, rfl⟩, ends, ?_⟩
        · rw [List.append_assoc, same, List.takeWhile_append_dropWhile]
        · simpa using some_digit
        · rw [List.length_append]
          exact Option.some.inj fits
      next => cases fits
  · rintro ⟨name, rest, rfl, ⟨digits, extension, some_digit, lower, known, rfl⟩, ends, rfl⟩
    -- The extensions are tried in turn, and they differ in their first letter.
    have ends := (endsSegment_iff rest).mpr ends
    obtain ⟨taken, dropped⟩ := digits_taken lower known rest
    have some_digit : digits.isEmpty = false := by simpa using some_digit
    rw [List.append_assoc, nameLength?, taken, dropped]
    rcases known with rfl | rfl
    · simp [some_digit, ends]
    · simp [some_digit, ends]

theorem nameLength?_of_isName {name rest : List Char} (isName : IsName name)
    (ends : EndsSegment rest) : nameLength? (name ++ rest) = some name.length :=
  (nameLength?_eq_some_iff _ _).mpr ⟨name, rest, rfl, isName, ends, rfl⟩

/-! ### One segment -/

/-- A segment behind a slash: a name that fills it becomes a label, in the last segment also in
front of a final line break. -/
def nameSegment (isLast : Bool) (segment : List Char) : List Char :=
  match nameLength? segment with
  | some length =>
    let rest := segment.drop length
    if rest = [] ∨ isLast = true ∧ rest = ['\n'] then nameLabel ++ rest else segment
  | none => segment

theorem nameSegment_of_isName {name : List Char} (isName : IsName name) (isLast : Bool) :
    nameSegment isLast name = nameLabel := by
  have whole := nameLength?_of_isName isName (Or.inl rfl)
  rw [List.append_nil] at whole
  simp [nameSegment, whole]

theorem nameSegment_break {name : List Char} (isName : IsName name) :
    nameSegment true (name ++ ['\n']) = nameLabel ++ ['\n'] := by
  have found : nameLength? (name ++ ['\n']) = some name.length :=
    nameLength?_of_isName isName (Or.inr (Or.inl rfl))
  simp [nameSegment, found]

theorem nameSegment_of_other {segment : List Char} {isLast : Bool} (other : ¬IsName segment)
    (unbroken : ∀ name, isLast = true → IsName name → segment ≠ name ++ ['\n']) :
    nameSegment isLast segment = segment := by
  unfold nameSegment
  split
  next length found =>
    obtain ⟨name, rest, rfl, isName, -, rfl⟩ := (nameLength?_eq_some_iff _ _).mp found
    rw [List.drop_left]
    refine if_neg ?_
    rintro (rfl | ⟨last, rfl⟩)
    · rw [List.append_nil] at other
      exact other isName
    · exact unbroken name last isName rfl
  next => rfl

/-- A segment is a name, or a name with a final line break where that does not count, or is
left alone. -/
theorem nameSegment_cases (isLast : Bool) (segment : List Char) :
    (IsName segment ∧ nameSegment isLast segment = nameLabel) ∨
    (∃ name, isLast = true ∧ IsName name ∧ segment = name ++ ['\n'] ∧
      nameSegment isLast segment = nameLabel ++ ['\n']) ∨
    (¬IsName segment ∧ (∀ name, isLast = true → IsName name → segment ≠ name ++ ['\n']) ∧
      nameSegment isLast segment = segment) := by
  -- A name fills any segment; only then is it asked whether a line break is left.
  by_cases isName : IsName segment
  · exact Or.inl ⟨isName, nameSegment_of_isName isName isLast⟩
  by_cases broken : ∃ name, isLast = true ∧ IsName name ∧ segment = name ++ ['\n']
  · obtain ⟨name, rfl, named, rfl⟩ := broken
    exact Or.inr (Or.inl ⟨name, rfl, named, rfl, nameSegment_break named⟩)
  · have unbroken : ∀ name, isLast = true → IsName name → segment ≠ name ++ ['\n'] :=
      fun name last named same => broken ⟨name, last, named, same⟩
    exact Or.inr (Or.inr ⟨isName, unbroken, nameSegment_of_other isName unbroken⟩)

theorem slash_not_mem_nameSegment {segment : List Char} (whole : '/' ∉ segment) (isLast : Bool) :
    '/' ∉ nameSegment isLast segment := by
  rcases nameSegment_cases isLast segment with ⟨-, same⟩ | ⟨-, -, -, -, same⟩ | ⟨-, -, same⟩
  · rw [same]
    decide
  · rw [same]
    decide
  · rw [same]
    exact whole

/-! ### Segment by segment -/

theorem replaceNamesFrom_skip (skip : Nat) (text : List Char) :
    replaceNamesFrom skip text = replaceNamesFrom 0 (text.drop skip) := by
  induction text generalizing skip with
  | nil => cases skip <;> rfl
  | cons c rest ih =>
    cases skip with
    | zero => rfl
    | succ skip => exact ih skip

/-- Up to the next slash nothing happens. -/
theorem replaceNamesFrom_append {segment : List Char} (whole : '/' ∉ segment)
    (rest : List Char) :
    replaceNamesFrom 0 (segment ++ rest) = segment ++ replaceNamesFrom 0 rest := by
  induction segment with
  | nil => rfl
  | cons c more ih =>
    rw [List.mem_cons, not_or] at whole
    rw [List.cons_append, replaceNamesFrom, if_neg (Ne.symm whole.1), ih whole.2, List.cons_append]

theorem replaceNamesFrom_found {rest : List Char} {length : Nat}
    (found : nameLength? rest = some length) :
    replaceNamesFrom 0 ('/' :: rest) =
      '/' :: (nameLabel ++ replaceNamesFrom 0 (rest.drop length)) := by
  rw [replaceNamesFrom, if_pos rfl, found, ← replaceNamesFrom_skip]
  rfl

theorem replaceNamesFrom_missed {rest : List Char} (missed : nameLength? rest = none) :
    replaceNamesFrom 0 ('/' :: rest) = '/' :: replaceNamesFrom 0 rest := by
  rw [replaceNamesFrom, if_pos rfl, missed]

/-- The last segment is replaced as if it stood alone. -/
theorem replaceNamesFrom_last {segment : List Char} (whole : '/' ∉ segment) :
    replaceNamesFrom 0 ('/' :: segment) = '/' :: nameSegment true segment := by
  have kept : ∀ rest, '/' ∉ rest → replaceNamesFrom 0 rest = rest := by
    intro rest apart
    simpa [replaceNamesFrom] using replaceNamesFrom_append apart []
  cases found : nameLength? segment with
  | none =>
    rw [replaceNamesFrom_missed found, kept segment whole, nameSegment, found]
  | some length =>
    obtain ⟨name, rest, rfl, -, ends, rfl⟩ := (nameLength?_eq_some_iff _ _).mp found
    have apart : '/' ∉ rest := fun member => whole (List.mem_append_right name member)
    rw [replaceNamesFrom_found found, List.drop_left, kept rest apart, nameSegment, found]
    -- Without a slash only the end of the path can end the segment.
    rcases ends with rfl | rfl | ⟨more, rfl⟩
    · simp
    · simp
    · exact absurd List.mem_cons_self apart

/-- Any other segment is replaced as if it stood alone, and did not end the path. -/
theorem replaceNamesFrom_inner {segment : List Char} (whole : '/' ∉ segment)
    (rest : List Char) :
    replaceNamesFrom 0 ('/' :: (segment ++ '/' :: rest)) =
      '/' :: (nameSegment false segment ++ replaceNamesFrom 0 ('/' :: rest)) := by
  by_cases isName : IsName segment
  · have found : nameLength? (segment ++ '/' :: rest) = some segment.length :=
      nameLength?_of_isName isName (Or.inr (Or.inr ⟨rest, rfl⟩))
    rw [replaceNamesFrom_found found, List.drop_left, nameSegment_of_isName isName]
  · have missed : nameLength? (segment ++ '/' :: rest) = none := by
      refine Option.eq_none_iff_forall_ne_some.mpr fun length found => ?_
      obtain ⟨name, tail, same, named, ends, -⟩ := (nameLength?_eq_some_iff _ _).mp found
      have slash : '/' ∈ name ++ tail := by simp [← same]
      have inside := (List.mem_append.mp slash).resolve_left named.slash_not_mem
      -- The slash behind the segment is what ends the name.
      rcases ends with rfl | rfl | ⟨more, rfl⟩
      · cases inside
      · exact absurd inside (by decide)
      · obtain ⟨rfl, -⟩ := Text.cut_unique whole named.slash_not_mem same
        exact isName named
    have kept : nameSegment false segment = segment :=
      nameSegment_of_other isName fun _ last => by cases last
    rw [replaceNamesFrom_missed missed, replaceNamesFrom_append whole, kept]

/-- Behind the first slash each segment is replaced by itself. -/
theorem splitOn_replaceNames_slash (text : List Char) :
    ∃ replaced, replaceNamesFrom 0 ('/' :: text) = '/' :: replaced ∧
      Text.splitOn '/' replaced = (Text.splitOn '/' text).mapIdx fun place segment =>
        nameSegment (place + 1 = (Text.splitOn '/' text).length) segment := by
  -- The slash is kept in front, for it is what a name has to follow.
  induction text using Text.splitOn_induction '/' with
  | whole segment whole =>
    refine ⟨_, replaceNamesFrom_last whole, ?_⟩
    rw [Text.splitOn_of_not_mem whole, Text.splitOn_of_not_mem (slash_not_mem_nameSegment whole _)]
    rfl
  | cut segment rest whole ih =>
    obtain ⟨replaced, same, cut⟩ := ih
    refine ⟨nameSegment false segment ++ '/' :: replaced, ?_, ?_⟩
    · rw [replaceNamesFrom_inner whole, same]
    · have more : 0 < (Text.splitOn '/' rest).length :=
        List.length_pos_iff.mpr (Text.splitOn_ne_nil '/' rest)
      rw [Text.splitOn_append_cons whole,
        Text.splitOn_append_cons (slash_not_mem_nameSegment whole _), cut, List.mapIdx_cons]
      simp [Nat.pos_iff_ne_zero.mp more]

/-- What comes in front of the first slash is no name. -/
theorem splitOn_replaceNames (text : List Char) :
    Text.splitOn '/' (replaceNamesFrom 0 text) =
      (Text.splitOn '/' text).mapIdx fun place segment =>
        if place = 0 then segment
        else nameSegment (place + 1 = (Text.splitOn '/' text).length) segment := by
  induction text using Text.splitOn_induction '/' with
  | whole segment whole =>
    have kept := replaceNamesFrom_append whole []
    rw [List.append_nil, replaceNamesFrom, List.append_nil] at kept
    rw [kept, Text.splitOn_of_not_mem whole]
    rfl
  | cut segment rest whole _ =>
    obtain ⟨replaced, same, cut⟩ := splitOn_replaceNames_slash rest
    rw [replaceNamesFrom_append whole, same, Text.splitOn_append_cons whole,
      Text.splitOn_append_cons whole, cut, List.mapIdx_cons]
    simp

/-! ### Nothing to replace -/

theorem replaceNamesFrom_of_clean {text : List Char} (clean : ¬HoldsName text) :
    replaceNamesFrom 0 text = text := by
  induction text with
  | nil => rfl
  | cons c rest ih =>
    have later : ¬HoldsName rest := by
      rintro ⟨before, name, tail, rfl, isName, ends⟩
      exact clean ⟨c :: before, name, tail, rfl, isName, ends⟩
    by_cases slash : c = '/'
    · subst slash
      cases found : nameLength? rest with
      | none => rw [replaceNamesFrom_missed found, ih later]
      | some length =>
        -- A name that would be replaced is one that the text holds.
        obtain ⟨name, tail, rfl, isName, ends, -⟩ := (nameLength?_eq_some_iff _ _).mp found
        exact absurd ⟨[], name, tail, rfl, isName, ends⟩ clean
    · rw [replaceNamesFrom, if_neg slash, ih later]

end ImageVault.PathLabel
