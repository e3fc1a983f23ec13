import Mathlib.Data.List.Induction
import ImageVault.Proofs.Outcome
import ImageVault.Proofs.Text.Split
import ImageVault.Url.Split

/-!
# What an address is cut into

## Main results

* `exists_written`: an address with a scheme and an authority is written with them in front,
  and the rest does not continue the authority.
* `Written.split_eq`: an address that is written so is cut into just these parts, provided
  that its authority is accepted.

## Proof strategy

Each cut is undone by writing its two sides with the mark between them, because the side in
front never holds the mark. The path ends at the first question mark or number sign, so it
does not matter that the two are looked for one after the other.
-/

namespace ImageVault.Url

variable {text name authority rest : List Char}

/-! ### What counts of a text -/

theorem mem_clean {c : Char} (visible : 0x20 < c.toNat) : c ∈ clean text ↔ c ∈ text := by
  have unbroken : (c ≠ '\t' ∧ c ≠ '\n') ∧ c ≠ '\r' := by
    refine ⟨⟨?_, ?_⟩, ?_⟩ <;> rintro rfl <;> exact absurd visible (by decide)
  have kept : c ∈ text.dropWhile isControlOrSpace ↔ c ∈ text := by
    refine ⟨fun member => List.dropWhile_subset _ member, fun member => ?_⟩
    rw [← List.takeWhile_append_dropWhile (p := isControlOrSpace) (l := text)] at member
    refine (List.mem_append.mp member).resolve_left fun leading => ?_
    have control := List.mem_takeWhile_imp leading
    simp only [isControlOrSpace, decide_eq_true_eq] at control
    omega
  rw [clean, List.mem_filter, kept]
  simpa using fun _ => unbroken

theorem clean_unbroken {c : Char} (member : c ∈ clean text) :
    c ≠ '\t' ∧ c ≠ '\n' ∧ c ≠ '\r' := by
  have kept := (List.mem_filter.mp member).2
  simpa [and_assoc] using kept

/-- A text counts as it is if nothing stands in front and nothing breaks it. -/
theorem clean_eq_self (first : ∀ c, text.head? = some c → isControlOrSpace c = false)
    (unbroken : ∀ c ∈ text, c ≠ '\t' ∧ c ≠ '\n' ∧ c ≠ '\r') : clean text = text := by
  have nothing_dropped : text.dropWhile isControlOrSpace = text := by
    cases text with
    | nil => rfl
    | cons c more => rw [List.dropWhile_cons_of_neg (by simp [first c rfl])]
  rw [clean, nothing_dropped, List.filter_eq_self]
  intro c member
  simpa [and_assoc] using unbroken c member

/-- A visible character behind a text counts, whatever stands in front of it. -/
theorem clean_concat (text : List Char) {c : Char} (visible : 0x20 < c.toNat) :
    clean (text ++ [c]) = clean text ++ [c] := by
  have shown : isControlOrSpace c = false := by simpa [isControlOrSpace] using visible
  have alone : clean [c] = [c] := by
    refine clean_eq_self (fun d same => ?_) fun d member => ?_
    · cases same
      exact shown
    · rw [List.mem_singleton.mp member]
      exact clean_unbroken ((mem_clean visible).mpr (List.mem_singleton.mpr rfl) : c ∈ clean [c])
  unfold clean at alone ⊢
  rw [List.dropWhile_append]
  split
  next nothing =>
    rw [List.isEmpty_iff.mp nothing, alone]
    rfl
  next =>
    rw [List.dropWhile_cons_of_neg (by simp [shown])] at alone
    rw [List.filter_append, alone]

/-! ### Schemes -/

/-- A letter, and behind it characters of schemes. -/
structure IsScheme (name : List Char) : Prop where
  letter : ∃ first more, name = first :: more ∧ first.isAlpha = true
  plain : ∀ c ∈ name, isSchemeChar c = true

namespace IsScheme

theorem not_mem (scheme : IsScheme name) {c : Char} (other : isSchemeChar c = false) :
    c ∉ name := by
  intro member
  rw [scheme.plain c member] at other
  cases other

theorem head_visible (scheme : IsScheme name) {more : List Char} {c : Char}
    (first : (name ++ more).head? = some c) : isControlOrSpace c = false := by
  obtain ⟨letter, tail, rfl, alphabetic⟩ := scheme.letter
  obtain rfl : letter = c := by simpa using first
  have high : ∀ c : Char, c.isAlpha = true → 0x20 < c.toNat := by
    intro c alphabetic
    change (decide (65 ≤ c.val ∧ c.val ≤ 90) || (97 ≤ c.val && c.val ≤ 122)) = true at alphabetic
    simp only [Bool.or_eq_true, Bool.and_eq_true, decide_eq_true_eq,
      UInt32.le_iff_toNat_le] at alphabetic
    change (65 ≤ c.toNat ∧ c.toNat ≤ 90) ∨ (97 ≤ c.toNat ∧ c.toNat ≤ 122) at alphabetic
    omega
  simpa [isControlOrSpace] using high letter alphabetic

end IsScheme

theorem splitScheme_written (scheme : IsScheme name) (rest : List Char) :
    splitScheme (name ++ ':' :: rest) = (name.map Char.toLower, rest) := by
  have cut := Text.cutAt_append_cons (scheme.not_mem (c := ':') (by decide)) rest
  obtain ⟨first, more, rfl, alphabetic⟩ := scheme.letter
  have plain : more.all isSchemeChar = true :=
    List.all_eq_true.mpr fun c member => scheme.plain c (List.mem_cons_of_mem first member)
  simp only [splitScheme, cut, alphabetic, plain, Bool.and_self, if_true]

theorem exists_scheme {scheme : List Char} (cut : splitScheme text = (scheme, rest))
    (schemed : scheme ≠ []) :
    ∃ name, IsScheme name ∧ scheme = name.map Char.toLower ∧ text = name ++ ':' :: rest := by
  unfold splitScheme at cut
  split at cut
  next first more after found =>
    split at cut
    next wellFormed =>
      obtain ⟨alphabetic, plain⟩ := Bool.and_eq_true_iff.mp wellFormed
      cases cut
      refine ⟨first :: more, ⟨⟨first, more, rfl, alphabetic⟩, ?_⟩, rfl,
        (Text.cutAt_eq_some found).1⟩
      refine List.forall_mem_cons.mpr ⟨?_, List.all_eq_true.mp plain⟩
      simp [isSchemeChar, Char.isAlphanum, alphabetic]
    next =>
      cases cut
      exact (schemed rfl).elim
  next =>
    cases cut
    exact (schemed rfl).elim

/-! ### Authorities -/

/-- The rest of an address does not continue its authority. -/
def EndsAuthority (rest : List Char) : Prop :=
  ∀ c, rest.head? = some c → endsAuthority c = true

theorem splitAuthority_written (inside : ∀ c ∈ authority, endsAuthority c = false)
    (ended : EndsAuthority rest) :
    splitAuthority ('/' :: '/' :: (authority ++ rest)) = (authority, rest) := by
  have others : ∀ c ∈ authority, (!endsAuthority c) = true := by
    intro c member
    rw [inside c member, Bool.not_false]
  have stops : rest.takeWhile (!endsAuthority ·) = [] ∧
      rest.dropWhile (!endsAuthority ·) = rest := by
    cases rest with
    | nil => exact ⟨rfl, rfl⟩
    | cons c more =>
      have last : ¬(!endsAuthority c) = true := by simp [ended c rfl]
      exact ⟨List.takeWhile_cons_of_neg last, List.dropWhile_cons_of_neg last⟩
  rw [splitAuthority, List.takeWhile_append_of_pos others, List.dropWhile_append_of_pos others,
    stops.1, stops.2, List.append_nil]

theorem exists_authority (cut : splitAuthority text = (authority, rest))
    (hosted : authority ≠ []) :
    text = '/' :: '/' :: (authority ++ rest) ∧ (∀ c ∈ authority, endsAuthority c = false) ∧
      EndsAuthority rest := by
  unfold splitAuthority at cut
  split at cut
  next after =>
    cases cut
    refine ⟨by rw [List.takeWhile_append_dropWhile], fun c member => ?_, fun c first => ?_⟩
    · simpa using List.mem_takeWhile_imp member
    · have stopped := List.head?_dropWhile_not (!endsAuthority ·) after
      rw [first] at stopped
      simpa using stopped
  next =>
    cases cut
    exact (hosted rfl).elim

/-- No check refuses the authority. -/
def Accepted (authority : List Char) : Prop :=
  checkAuthority authority = .ok () ∧ authority.any foldsToDelimiter = false

/-- Without brackets and without characters that could stand for a mark nothing is refused. -/
theorem accepted_of_plain
    (plain : ∀ c ∈ authority, c ≠ '[' ∧ c ≠ ']' ∧ foldsToDelimiter c = false) :
    Accepted authority := by
  have unopened : authority.contains '[' = false := by
    simpa using fun member => (plain '[' member).1 rfl
  have unclosed : authority.contains ']' = false := by
    simpa using fun member => (plain ']' member).2.1 rfl
  refine ⟨by rw [checkAuthority, unopened, unclosed], ?_⟩
  rw [List.any_eq_false]
  intro c member
  simp [(plain c member).2.2]

/-! ### Whole addresses -/

/-- What counts of the text is a scheme, an authority and the rest. -/
structure Written (text name authority rest : List Char) : Prop where
  cleaned : clean text = name ++ ':' :: '/' :: '/' :: (authority ++ rest)
  scheme : IsScheme name
  inside : ∀ c ∈ authority, endsAuthority c = false
  ended : EndsAuthority rest

def endsPath (c : Char) : Bool :=
  c = '?' || c = '#'

/-- A path that is empty or starts at the root. -/
def IsRooted (path : List Char) : Prop :=
  ∀ c, path.head? = some c → c = '/'

theorem IsRooted.concat_slash {path : List Char} (root : IsRooted path) :
    IsRooted (path ++ ['/']) := by
  intro c first
  cases path with
  | nil => exact (Option.some.inj first).symm
  | cons d rest => exact root c first

/-- The path in front of the query and the fragment. -/
def pathOf (rest : List Char) : List Char :=
  rest.takeWhile (!endsPath ·)

theorem pathOf_unmarked (unasked : '?' ∉ rest) (unmarked : '#' ∉ rest) : pathOf rest = rest := by
  refine List.takeWhile_eq_self_iff.mpr fun c member => ?_
  have other : c ≠ '?' ∧ c ≠ '#' := by
    constructor <;> rintro rfl <;> contradiction
  simp [endsPath, other]

/-- What follows a mark is no part of the path. -/
theorem pathOf_append {c : Char} (member : c ∈ rest) (mark : endsPath c = true)
    (more : List Char) : pathOf (rest ++ more) = pathOf rest := by
  have partly : (rest.takeWhile (!endsPath ·)).length ≠ rest.length := by
    intro whole
    have all := List.takeWhile_eq_self_iff.mp ((List.takeWhile_prefix _).eq_of_length whole)
    simpa [mark] using all c member
  rw [pathOf, List.takeWhile_append, if_neg partly, pathOf]

/-- What ends an authority and no path is a slash. -/
theorem EndsAuthority.isRooted (ended : EndsAuthority rest) : IsRooted (pathOf rest) := by
  intro c first
  rw [pathOf, List.head?_takeWhile, Option.filter_eq_some_iff] at first
  have ending := ended c first.1
  have inside := first.2
  simp only [endsPath, endsAuthority, Bool.or_eq_true, beq_iff_eq, Bool.not_eq_true',
    Bool.or_eq_false_iff, decide_eq_false_iff_not] at ending inside
  grind

namespace Written

/-- Marks that end the path stand in the rest if they stand in the text at all. -/
theorem mark_mem_iff (written : Written text name authority rest) {c : Char}
    (mark : endsPath c = true) : c ∈ rest ↔ c ∈ text := by
  obtain ⟨visible, unschemed, ending, colon, slash⟩ : 0x20 < c.toNat ∧ isSchemeChar c = false ∧
      endsAuthority c = true ∧ c ≠ ':' ∧ c ≠ '/' := by
    obtain rfl | rfl : c = '?' ∨ c = '#' := by simpa [endsPath] using mark
    · decide
    · decide
  have outside : c ∉ authority := by
    intro member
    rw [written.inside c member] at ending
    cases ending
  have counted : c ∈ clean text ↔ c ∈ text := mem_clean visible
  rw [← counted, written.cleaned]
  simp [written.scheme.not_mem unschemed, colon, slash, outside]

/-- A slash behind the text belongs to the rest. -/
theorem concat_slash (written : Written text name authority rest) :
    Written (text ++ ['/']) name authority (rest ++ ['/']) where
  cleaned := by
    rw [clean_concat text (by decide), written.cleaned]
    simp
  scheme := written.scheme
  inside := written.inside
  ended := by
    intro c first
    cases rest with
    | nil =>
      cases first
      rfl
    | cons d more => exact written.ended c first

/-- A slash at the end of the text ends the rest as well, if there is any. -/
theorem rest_ends {front : List Char} (written : Written (front ++ ['/']) name authority rest) :
    rest = [] ∨ rest.getLast? = some '/' := by
  have ending := congrArg List.getLast? written.cleaned
  rw [clean_concat front (by decide), List.getLast?_concat] at ending
  cases rest using List.reverseRecOn with
  | nil => exact Or.inl rfl
  | append_singleton more last =>
    have same : '/' = last := by simpa [List.getLast?_append, List.getLast?_cons] using ending
    exact Or.inr (by rw [List.getLast?_concat, same])

end Written

/-- The parts of an address that is written with these. -/
def partsOf (name authority rest : List Char) : Parts :=
  { scheme := name.map Char.toLower
    authority := authority
    path := pathOf rest
    query := (Text.cutAt '?' (Text.cutAt '#' rest).1).2.getD []
    fragment := (Text.cutAt '#' rest).2.getD [] }

/-- Without a mark all of the rest is the path. -/
theorem partsOf_unmarked (name authority : List Char) (unasked : '?' ∉ rest)
    (unmarked : '#' ∉ rest) :
    partsOf name authority rest = ⟨name.map Char.toLower, authority, rest, [], []⟩ := by
  rw [partsOf, pathOf_unmarked unasked unmarked, Text.cutAt_of_not_mem unmarked,
    Text.cutAt_of_not_mem unasked]
  rfl

/-- The path ends at the number sign or at the question mark, whichever comes first. -/
theorem cut_path (rest : List Char) :
    (Text.cutAt '?' (Text.cutAt '#' rest).1).1 = pathOf rest := by
  rw [Text.cutAt_fst, Text.cutAt_fst, List.takeWhile_takeWhile, pathOf]
  congr 1
  funext c
  simp [endsPath]

theorem Written.split_eq (written : Written text name authority rest)
    (accepted : Accepted authority) : split text = .ok (partsOf name authority rest) := by
  simp [split, written.cleaned, splitScheme_written written.scheme,
    splitAuthority_written written.inside written.ended, accepted.1, accepted.2, partsOf,
    cut_path]

theorem exists_written {parts : Parts} (cut : split text = .ok parts)
    (schemed : parts.scheme ≠ []) (hosted : parts.authority ≠ []) :
    ∃ name authority rest, Written text name authority rest ∧ Accepted authority ∧
      parts = partsOf name authority rest := by
  cases schemeCut : splitScheme (clean text) with
  | mk scheme announced =>
  cases hostCut : splitAuthority announced with
  | mk authority rest =>
  simp only [split, schemeCut, hostCut, bind_eq_ok_iff] at cut
  obtain ⟨_, checked, assembled⟩ := cut
  split at assembled
  · cases assembled
  next unfolded =>
    cases assembled
    obtain ⟨name, schemeForm, rfl, cleaned⟩ := exists_scheme schemeCut schemed
    obtain ⟨rfl, inside, ended⟩ := exists_authority hostCut hosted
    refine ⟨name, authority, rest, ⟨cleaned, schemeForm, inside, ended⟩, ⟨checked, ?_⟩, ?_⟩
    · simpa using unfolded
    · rw [partsOf, ← cut_path]

/-! ### Addresses that can be cut -/

/-- What is taken for the authority, whether or not it is accepted. -/
def authorityOf (text : List Char) : List Char :=
  (splitAuthority (splitScheme (clean text)).2).1

theorem mem_authorityOf {c : Char} (member : c ∈ authorityOf text) : c ∈ text := by
  have announced : c ∈ (splitScheme (clean text)).2 := by
    unfold authorityOf splitAuthority at member
    split at member
    next after same =>
      rw [same]
      exact List.mem_cons_of_mem _ (List.mem_cons_of_mem _ (List.takeWhile_subset _ member))
    next => cases member
  have counted : c ∈ clean text := by
    unfold splitScheme at announced
    split at announced
    next first more after found =>
      split at announced
      · rw [(Text.cutAt_eq_some found).1]
        exact List.mem_append_right _ (List.mem_cons_of_mem _ announced)
      · exact announced
    next => exact announced
  exact List.dropWhile_subset _ (List.mem_filter.mp counted).1

/-- Nothing but the authority decides whether an address can be cut into parts. -/
theorem exists_split_iff : (∃ parts, split text = .ok parts) ↔ Accepted (authorityOf text) := by
  cases schemeCut : splitScheme (clean text) with
  | mk scheme announced =>
  cases hostCut : splitAuthority announced with
  | mk authority rest =>
  have same : authorityOf text = authority := by
    rw [authorityOf, schemeCut, hostCut]
  simp only [split, schemeCut, hostCut, same, Accepted]
  cases checked : checkAuthority authority with
  | error defect => simp
  | ok =>
    cases folds : authority.any foldsToDelimiter
    · simp
    · simp

end ImageVault.Url
