import Mathlib.Data.List.Basic
import Mathlib.Data.List.Induction
import ImageVault.Proofs.Url.Split
import ImageVault.Url.Join

/-!
# Resolving a plain path

## Main result

`join_plain`: a relative path of plain segments, resolved against an address whose path is
empty or rooted, keeps the scheme and the authority of the address. Its segments follow the
names that enclose the last segment of the address, with dots among these names resolved.

## Proof strategy

A plain path is cut into nothing but itself. Its segments come last, none of them is empty
or consists of dots, so neither pass over the segments touches them: whatever becomes of the
segments in front, these stay as they are. In front of them there is the directory of the
address, of which the root and the names are left.
-/

namespace ImageVault.Url

/-- Characters that have no meaning of their own in a path. -/
def isPathChar (c : Char) : Bool :=
  0x20 < c.toNat && !("/:;#?".toList.contains c)

/-- A segment that stands for itself, wherever it is written. -/
structure IsPlainSegment (segment : List Char) : Prop where
  present : segment ≠ []
  notDot : segment ≠ dot
  notDotDot : segment ≠ dotDot
  plain : ∀ c ∈ segment, isPathChar c = true

/-- A relative path that resolving only puts something in front of. -/
structure IsPlainPath (segments : List (List Char)) : Prop where
  present : segments ≠ []
  plain : ∀ segment ∈ segments, IsPlainSegment segment

variable {segments : List (List Char)}

/-! ### A plain path is cut into nothing but itself -/

namespace IsPlainPath

theorem slash_not_mem (plain : IsPlainPath segments) :
    ∀ segment ∈ segments, '/' ∉ segment := by
  intro segment chosen member
  have special := (plain.plain segment chosen).plain '/' member
  exact absurd special (by decide)

/-- Between the segments there are slashes, and in them nothing special. -/
theorem mem_joinWith (plain : IsPlainPath segments) {c : Char}
    (member : c ∈ Text.joinWith '/' segments) : c = '/' ∨ isPathChar c = true := by
  obtain same | ⟨segment, chosen, inside⟩ := Text.mem_joinWith member
  · exact Or.inl same
  · exact Or.inr ((plain.plain segment chosen).plain c inside)

theorem special_not_mem (plain : IsPlainPath segments) {c : Char} (other : c ≠ '/')
    (special : isPathChar c = false) : c ∉ Text.joinWith '/' segments := by
  intro member
  obtain same | ordinary := plain.mem_joinWith member
  · exact other same
  · rw [special] at ordinary
    cases ordinary

theorem head (plain : IsPlainPath segments) :
    ∃ c rest, Text.joinWith '/' segments = c :: rest ∧ c ≠ '/' := by
  obtain ⟨first, more, rfl⟩ := List.exists_cons_of_ne_nil plain.present
  have chosen := plain.plain first List.mem_cons_self
  obtain ⟨c, rest, rfl⟩ := List.exists_cons_of_ne_nil chosen.present
  have unrooted : c ≠ '/' := by
    rintro rfl
    exact absurd (chosen.plain '/' List.mem_cons_self) (by decide)
  cases more with
  | nil => exact ⟨c, rest, rfl, unrooted⟩
  | cons next more => exact ⟨c, _, rfl, unrooted⟩

theorem joinWith_ne_nil (plain : IsPlainPath segments) : Text.joinWith '/' segments ≠ [] := by
  obtain ⟨c, rest, starts, -⟩ := plain.head
  rw [starts]
  exact List.cons_ne_nil c rest

theorem undotted (plain : IsPlainPath segments) :
    ∀ segment ∈ segments, segment ≠ dot ∧ segment ≠ dotDot := fun segment chosen =>
  ⟨(plain.plain segment chosen).notDot, (plain.plain segment chosen).notDotDot⟩

theorem clean_eq (plain : IsPlainPath segments) :
    clean (Text.joinWith '/' segments) = Text.joinWith '/' segments := by
  have visible : ∀ c ∈ Text.joinWith '/' segments, 0x20 < c.toNat := by
    intro c member
    obtain rfl | ordinary := plain.mem_joinWith member
    · decide
    · unfold isPathChar at ordinary
      simp only [Bool.and_eq_true, decide_eq_true_eq] at ordinary
      exact ordinary.1
  refine clean_eq_self (fun c first => ?_) fun c member => ?_
  · simpa [isControlOrSpace] using visible c (List.mem_of_head? first)
  · exact clean_unbroken ((mem_clean (visible c member)).mpr member)

theorem split_eq (plain : IsPlainPath segments) :
    split (Text.joinWith '/' segments) = .ok ⟨[], [], Text.joinWith '/' segments, [], []⟩ := by
  have schemeless : splitScheme (Text.joinWith '/' segments) =
      ([], Text.joinWith '/' segments) := by
    unfold splitScheme
    rw [Text.cutAt_of_not_mem (plain.special_not_mem (by decide) (by decide))]
    split
    next coloned => simp at coloned
    next => rfl
  have local_path : splitAuthority (Text.joinWith '/' segments) =
      ([], Text.joinWith '/' segments) := by
    obtain ⟨c, rest, starts, unrooted⟩ := plain.head
    rw [starts]
    unfold splitAuthority
    split
    next same => exact absurd (List.cons.inj same).1 unrooted
    next => rfl
  have unmarked := Text.cutAt_of_not_mem
    (plain.special_not_mem (c := '#') (by decide) (by decide))
  have unasked := Text.cutAt_of_not_mem
    (plain.special_not_mem (c := '?') (by decide) (by decide))
  simp [split, plain.clean_eq, schemeless, local_path, checkAuthority, unmarked, unasked]

theorem splitParameters_eq (plain : IsPlainPath segments) :
    splitParameters (Text.joinWith '/' segments) = (Text.joinWith '/' segments, []) := by
  have absent : ';' ∉ Text.joinWith '/' segments := plain.special_not_mem (by decide) (by decide)
  have last : ';' ∉ ((Text.joinWith '/' segments).reverse.takeWhile (· ≠ '/')).reverse := by
    intro member
    have taken := List.takeWhile_subset _ (List.mem_reverse.mp member)
    exact absent (List.mem_reverse.mp taken)
  unfold splitParameters
  simp only [Text.cutAt_of_not_mem last]

end IsPlainPath

/-! ### Passing over the segments -/

/-- The names on a path: its segments, the empty ones apart. -/
def names (path : List Char) : List (List Char) :=
  (Text.splitOn '/' path).filter fun segment => !segment.isEmpty

/-- The names in front of the last segment of a path. -/
def enclosing (path : List Char) : List (List Char) :=
  (Text.splitOn '/' path).dropLast.filter fun segment => !segment.isEmpty

theorem enclosing_concat_slash (path : List Char) : enclosing (path ++ ['/']) = names path := by
  rw [enclosing, Text.splitOn_append]
  exact congrArg _ List.dropLast_concat

theorem names_concat_slash (path : List Char) : names (path ++ ['/']) = names path := by
  rw [names, names, Text.splitOn_append, List.filter_append]
  exact List.append_nil _

/-- Nothing follows the last slash of a directory. -/
theorem enclosing_eq_names {path : List Char} (ends : path = [] ∨ path.getLast? = some '/') :
    enclosing path = names path := by
  rcases ends with rfl | ends
  · rfl
  · obtain ⟨outer, rfl⟩ := List.getLast?_eq_some_iff.mp ends
    rw [enclosing_concat_slash, names_concat_slash]

/-- What follows the last slash is a name of its own. -/
theorem names_eq_enclosing_append {path : List Char} (present : path ≠ [])
    (unended : path.getLast? ≠ some '/') : ∃ last, names path = enclosing path ++ [last] := by
  cases cut : Text.splitOn '/' path using List.reverseRecOn with
  | nil => exact absurd cut (Text.splitOn_ne_nil '/' path)
  | append_singleton outer last =>
    have named : last ≠ [] := by
      rintro rfl
      have whole := Text.joinWith_splitOn '/' path
      rw [cut] at whole
      cases outer with
      | nil => exact present whole.symm
      | cons first more =>
        rw [Text.joinWith_append '/' (List.cons_ne_nil first more) (List.cons_ne_nil [] [])]
          at whole
        rw [← whole] at unended
        exact unended (List.getLast?_concat ..)
    refine ⟨last, ?_⟩
    rw [names, enclosing, cut, List.dropLast_concat, List.filter_append]
    simp [named]

/-- Segments that are no dots join those that are kept. -/
theorem removeDots_undotted (kept : List (List Char))
    (undotted : ∀ segment ∈ segments, segment ≠ dot ∧ segment ≠ dotDot) :
    removeDots kept segments = kept.reverse ++ segments := by
  induction segments generalizing kept with
  | nil => rw [removeDots, List.append_nil]
  | cons segment rest ih =>
    obtain ⟨notDot, notDotDot⟩ := undotted segment List.mem_cons_self
    have stay := ih (segment :: kept)
      fun other member => undotted other (List.mem_cons_of_mem _ member)
    rw [removeDots, if_neg notDotDot, if_neg notDot, stay, List.reverse_cons,
      List.append_assoc, List.singleton_append]

/-- Segments that are no dots stay behind whatever has become of those in front. -/
theorem removeDots_append (kept before : List (List Char))
    (undotted : ∀ segment ∈ segments, segment ≠ dot ∧ segment ≠ dotDot) :
    removeDots kept (before ++ segments) = removeDots kept before ++ segments := by
  induction before generalizing kept with
  | nil => rw [List.nil_append, removeDots, removeDots_undotted kept undotted]
  | cons first before ih =>
    rw [List.cons_append, removeDots, removeDots]
    split
    · exact ih _
    · split
      · exact ih _
      · exact ih _

/-- Nothing is kept that was not there. -/
theorem mem_removeDots {kept before : List (List Char)} {segment : List Char}
    (member : segment ∈ removeDots kept before) : segment ∈ kept ∨ segment ∈ before := by
  induction before generalizing kept with
  | nil =>
    rw [removeDots, List.mem_reverse] at member
    exact Or.inl member
  | cons first before ih =>
    have later : segment ∈ before → segment ∈ first :: before := List.mem_cons_of_mem first
    rw [removeDots] at member
    split at member
    · exact (ih member).imp List.mem_of_mem_drop later
    · split at member
      · exact (ih member).imp_right later
      · rcases ih member with known | new
        · rcases List.mem_cons.mp known with rfl | known
          · exact Or.inr List.mem_cons_self
          · exact Or.inl known
        · exact Or.inr (later new)

/-- The last segment is kept in any case, those before it because they are not empty. -/
theorem keep_nonempty {rest : List (List Char)} (present : ∀ segment ∈ rest, segment ≠ []) :
    (rest.dropLast.filter fun segment => !segment.isEmpty) ++ rest.getLast?.toList = rest := by
  have inner : rest.dropLast.filter (fun segment => !segment.isEmpty) = rest.dropLast := by
    rw [List.filter_eq_self]
    intro segment member
    simpa using present segment (List.dropLast_subset rest member)
  rw [inner]
  cases rest using List.reverseRecOn with
  | nil => rfl
  | append_singleton more last => simp

/-- Of the segments in front of a plain path the first one stays and the empty ones go. -/
theorem dropInnerEmpty_append (first : List Char) (before : List (List Char))
    (plain : IsPlainPath segments) :
    dropInnerEmpty (first :: before ++ segments) =
      first :: (before.filter fun segment => !segment.isEmpty) ++ segments := by
  have present : ∀ segment ∈ segments, segment ≠ [] := fun segment member =>
    (plain.plain segment member).present
  rw [List.cons_append, dropInnerEmpty, List.dropLast_append_of_ne_nil plain.present,
    List.filter_append, List.getLast?_append_of_ne_nil _ plain.present, List.cons_append,
    List.cons_append, List.append_assoc, keep_nonempty present]

/-! ### The directory of the base -/

theorem IsRooted.splitOn_eq {path : List Char} (rooted : IsRooted path) :
    ∃ inner, Text.splitOn '/' path = [] :: inner ∧ (inner = [] ↔ path = []) := by
  cases path with
  | nil => exact ⟨[], rfl, by simp⟩
  | cons c rest =>
    obtain rfl := rooted c rfl
    exact ⟨Text.splitOn '/' rest, by rw [Text.splitOn, if_pos rfl],
      by simp [Text.splitOn_ne_nil]⟩

/-- The root comes first, and behind it are the names that enclose the last segment. -/
theorem IsRooted.directory_eq {path : List Char} (rooted : IsRooted path) :
    ∃ inner, directory path = [] :: inner ∧
      (inner.filter fun segment => !segment.isEmpty) = enclosing path := by
  obtain ⟨inner, cut, nothing⟩ := rooted.splitOn_eq
  rw [directory, enclosing, cut]
  cases inner using List.reverseRecOn with
  | nil => exact ⟨[], rfl, rfl⟩
  | append_singleton front last =>
    have ending : ([] :: (front ++ [last])).getLast? = some last := by
      rw [← List.cons_append, List.getLast?_concat]
    have shorter : ([] :: (front ++ [last])).dropLast = [] :: front := by
      rw [← List.cons_append, List.dropLast_concat]
    rw [ending, shorter]
    split
    next open_ended =>
      obtain rfl := Option.some.inj open_ended
      exact ⟨front ++ [[]], rfl, by simp⟩
    next => exact ⟨front, rfl, by simp⟩

/-- Parameters belong to the last segment, so what stands in front of it stays. -/
theorem splitParameters_front (path : List Char) :
    ∃ front last name, path = front ++ last ∧ (splitParameters path).1 = front ++ name ∧
      name <+: last ∧ '/' ∉ last ∧ (front = [] ∨ ∃ outer, front = outer ++ ['/']) := by
  have whole : (path.reverse.dropWhile (· ≠ '/')).reverse ++
      (path.reverse.takeWhile (· ≠ '/')).reverse = path := by
    rw [← List.reverse_append, List.takeWhile_append_dropWhile, List.reverse_reverse]
  generalize frontCut : (path.reverse.dropWhile (· ≠ '/')).reverse = front at whole
  generalize lastCut : (path.reverse.takeWhile (· ≠ '/')).reverse = last at whole
  have unslashed : '/' ∉ last := by
    intro member
    rw [← lastCut, List.mem_reverse] at member
    simpa using List.mem_takeWhile_imp member
  have bounded : front = [] ∨ ∃ outer, front = outer ++ ['/'] := by
    cases dropped : path.reverse.dropWhile (· ≠ '/') with
    | nil => exact Or.inl (by rw [← frontCut, dropped, List.reverse_nil])
    | cons c rest =>
      have first := List.head?_dropWhile_not (· ≠ '/') path.reverse
      rw [dropped] at first
      obtain rfl : c = '/' := by simpa using first
      exact Or.inr ⟨rest.reverse, by rw [← frontCut, dropped, List.reverse_cons]⟩
  have taken : path.take (path.length - last.length) = front := by
    rw [← whole, List.length_append, Nat.add_sub_cancel, List.take_left]
  unfold splitParameters
  simp only [lastCut]
  cases cut : Text.cutAt ';' last with
  | mk name parameters =>
    cases parameters with
    | none =>
      exact ⟨front, last, last, whole.symm, whole.symm, List.prefix_rfl, unslashed, bounded⟩
    | some parameters =>
      have shorter : name <+: last := ⟨_, (Text.cutAt_eq_some cut).1.symm⟩
      refine ⟨front, last, name, whole.symm, ?_, shorter, unslashed, bounded⟩
      rw [taken]

/-- Whether it has parameters or not, a path starts at the root and has the same names in
    front of its last segment. -/
theorem splitParameters_directory {path : List Char} (rooted : IsRooted path) :
    IsRooted (splitParameters path).1 ∧ enclosing (splitParameters path).1 = enclosing path := by
  obtain ⟨front, last, name, whole, cut, shorter, unslashed, bounded⟩ :=
    splitParameters_front path
  rw [cut]
  rcases bounded with rfl | ⟨outer, rfl⟩
  · -- A path that starts at the root and has no slash is empty.
    have empty : last = [] := by
      cases last with
      | nil => rfl
      | cons c rest =>
        have root : c = '/' := rooted c (by rw [whole]; rfl)
        exact absurd (root ▸ List.mem_cons_self) unslashed
    rw [empty] at shorter whole
    rw [List.prefix_nil.mp shorter, whole]
    exact ⟨whole ▸ rooted, rfl⟩
  · have front_only : ∀ ending : List Char, '/' ∉ ending →
        enclosing (outer ++ ['/'] ++ ending) = names outer := by
      intro ending unslashed
      rw [enclosing, List.append_assoc, List.singleton_append, Text.splitOn_append,
        Text.splitOn_of_not_mem unslashed, List.dropLast_concat, names]
    refine ⟨fun c first => rooted c ?_, ?_⟩
    · rw [whole]
      cases outer with
      | nil => exact first
      | cons d more => exact first
    · rw [whole, front_only last unslashed,
        front_only name fun member => unslashed (shorter.subset member)]

/-! ### Resolving -/

theorem joinWith_suffix (kept : List (List Char)) (plain : IsPlainPath segments) :
    Text.joinWith '/' segments <:+ Text.joinWith '/' (kept ++ segments) := by
  cases kept with
  | nil => exact List.suffix_refl _
  | cons first kept =>
    rw [Text.joinWith_append '/' (List.cons_ne_nil first kept) plain.present]
    exact (List.suffix_cons '/' _).trans (List.suffix_append _ _)

theorem joinWith_append_ne_nil (kept : List (List Char)) (plain : IsPlainPath segments) :
    Text.joinWith '/' (kept ++ segments) ≠ [] := by
  obtain ⟨front, longer⟩ := joinWith_suffix kept plain
  rw [← longer]
  simp [plain.joinWith_ne_nil]

/-- The segments of the reference follow what is left of the directory of the base. -/
theorem resolvePath_plain {base : List Char} (rooted : IsRooted base)
    (plain : IsPlainPath segments) :
    resolvePath base (Text.joinWith '/' segments) =
      Text.joinWith '/' (removeDots [] ([] :: enclosing base) ++ segments) := by
  have unrooted : (Text.joinWith '/' segments).head? ≠ some '/' := by
    obtain ⟨c, rest, starts, unrooted⟩ := plain.head
    rw [starts, List.head?_cons]
    exact fun same => unrooted (Option.some.inj same)
  have pieces : Text.splitOn '/' (Text.joinWith '/' segments) = segments :=
    Text.splitOn_joinWith plain.present plain.slash_not_mem
  obtain ⟨inner, cut, kept⟩ := rooted.directory_eq
  have dropped : dropInnerEmpty (directory base ++ segments) =
      [] :: enclosing base ++ segments := by
    rw [cut, dropInnerEmpty_append [] inner plain, kept]
  -- The last segment is one of the plain ones, so nothing is added for dots at the end.
  have last : ∀ segment, ([] :: enclosing base ++ segments).getLast? = some segment →
      IsPlainSegment segment := by
    intro segment found
    rw [List.getLast?_append_of_ne_nil _ plain.present] at found
    exact plain.plain segment (List.mem_of_getLast? found)
  have noDot : ([] :: enclosing base ++ segments).getLast? ≠ some dot :=
    fun same => (last _ same).notDot rfl
  have noDotDot : ([] :: enclosing base ++ segments).getLast? ≠ some dotDot :=
    fun same => (last _ same).notDotDot rfl
  have undotted := removeDots_append [] ([] :: enclosing base) plain.undotted
  have present : (Text.joinWith '/'
      (removeDots [] ([] :: enclosing base) ++ segments)).isEmpty = false := by
    simpa using joinWith_append_ne_nil _ plain
  simp only [resolvePath, if_neg unrooted, pieces, dropped, undotted, noDot, noDotDot,
    decide_false, Bool.or_self, Bool.false_eq_true, if_false, List.append_nil, present]

/-! ### Writing the result -/

/-- The path with its root. -/
def rooted (path : List Char) : List Char :=
  if path.head?.any (· ≠ '/') then '/' :: path else path

/-- An address without a query and a fragment is its scheme, its authority and its path. -/
theorem unsplit_eq {scheme : List Char} (schemed : scheme ≠ []) (authority path : List Char) :
    Parts.unsplit ⟨scheme, authority, path, [], []⟩ =
      scheme ++ "://".toList ++ authority ++ rooted path := by
  simp [Parts.unsplit, rooted, schemed]

theorem exists_rooted {path : List Char} (present : path ≠ []) :
    ∃ rest, rooted path = '/' :: rest := by
  obtain ⟨c, rest, rfl⟩ := List.exists_cons_of_ne_nil present
  unfold rooted
  split
  next => exact ⟨c :: rest, rfl⟩
  next root =>
    obtain rfl : c = '/' := by simpa using root
    exact ⟨rest, rfl⟩

/-- Whatever has become of the segments in front, a plain path follows a slash. -/
theorem rooted_suffix (kept : List (List Char)) (plain : IsPlainPath segments) :
    '/' :: Text.joinWith '/' segments <:+ rooted (Text.joinWith '/' (kept ++ segments)) := by
  cases kept with
  | nil =>
    -- The path consists of the segments alone, so it still needs its root.
    obtain ⟨c, rest, starts, unrooted⟩ := plain.head
    have root : rooted (Text.joinWith '/' segments) = '/' :: Text.joinWith '/' segments := by
      rw [rooted, starts, List.head?_cons, if_pos (by simpa using unrooted)]
    exact root ▸ List.suffix_rfl
  | cons first kept =>
    rw [Text.joinWith_append '/' (List.cons_ne_nil first kept) plain.present, rooted]
    split
    · exact (List.suffix_append _ _).trans (List.suffix_cons '/' _)
    · exact List.suffix_append _ _

/-! ### Joining -/

theorem join_plain {base : List Char} {parts : Parts} (cut : split base = .ok parts)
    (schemed : parts.scheme ≠ []) (root : IsRooted parts.path) (plain : IsPlainPath segments) :
    join base (Text.joinWith '/' segments) =
      .ok (parts.scheme ++ "://".toList ++ parts.authority ++ rooted (Text.joinWith '/'
        (removeDots [] ([] :: enclosing parts.path) ++ segments))) := by
  obtain ⟨stillRooted, sameNames⟩ := splitParameters_directory root
  have resolved := resolvePath_plain stillRooted plain
  rw [sameNames] at resolved
  simp [join, plain.joinWith_ne_nil, cut, plain.split_eq, plain.splitParameters_eq,
    withParameters, resolved, unsplit_eq schemed]

end ImageVault.Url
