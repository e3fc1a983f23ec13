import ImageVault.Proofs.Identity
import ImageVault.Proofs.Uuid.Lenient

/-!
# Which callers are accepted

## Main results

* `identity_is_canonicalised`: all spellings of an identifier name the same caller, whose
  canonical text names that caller again; whatever else is sent is refused.
* `accepted_iff_numeral`: what is sent is accepted exactly if 32 characters are left that are a
  numeral, so digits alone are not required (`liberties_are_accepted`).
-/

namespace ImageVault.Identity

variable {header : Option String} {id : Uuid}

/-- An empty header is refused in any case: it spells nothing. -/
theorem ofHeader_eq_ok_iff (header : Option String) (id : Uuid) :
    ofHeader header = .ok id ↔ Uuid.ofLenient? (header.getD "").toList = some id := by
  have unspelled : Uuid.ofLenient? [] = none := rfl
  unfold ofHeader
  split
  next empty => simp [empty, unspelled]
  next =>
    cases Uuid.ofLenient? (header.getD "").toList <;> simp

theorem ofHeader_of_spells {text : List Char} (spells : Uuid.Spells id text) :
    ofHeader (some (String.ofList text)) = .ok id := by
  rw [ofHeader_eq_ok_iff, Option.getD_some, String.toList_ofList]
  exact spells.ofLenient?

theorem ofHeader_text (id : Uuid) : ofHeader (some id.text) = .ok id :=
  ofHeader_of_spells id.spells_chars

/-- Whoever is refused is asked to authenticate. -/
theorem ofHeader_cases (header : Option String) :
    (∃ id, ofHeader header = .ok id) ∨
      ∃ problem, ofHeader header = .error problem ∧ problem.status = 401 ∧
        problem.headers = [("WWW-Authenticate", "Bearer")] := by
  cases read : ofHeader header with
  | ok id => exact Or.inl ⟨id, rfl⟩
  | error problem =>
    refine Or.inr ⟨problem, rfl, ?_⟩
    rcases ofHeader_eq_error read with rfl | rfl
    · exact ⟨rfl, rfl⟩
    · exact ⟨rfl, rfl⟩

/-- Every spelling of an identifier is read as that identifier: its digits in letters of either
case, with hyphens anywhere, in braces and behind the name of the namespace. An identifier is
written with 36 characters, its digits in lower case in groups of 8, 4, 4, 4 and 12. Whatever
the header is, the caller is known by such an identifier, and sending its text instead makes no
difference, or is asked to authenticate. No number of 32 characters is out of range. -/
theorem identity_is_canonicalised (header : Option String) :
    (∀ (id : Uuid) (text : List Char), Uuid.Spells id text →
      ofHeader (some (String.ofList text)) = .ok id) ∧
    (∀ id : Uuid, id.text.length = 36 ∧ Uuid.IsCanonical id.text.toList id.number.val) ∧
    ((∃ id, ofHeader header = .ok id ∧ id.number.val < 2 ^ 128 ∧
        ofHeader (some id.text) = .ok id) ∨
      ∃ problem, ofHeader header = .error problem ∧ problem.status = 401 ∧
        problem.headers = [("WWW-Authenticate", "Bearer")]) ∧
    (∀ number, (Uuid.bareSpelling (header.getD "").toList).length = 32 →
      Uuid.readHexNumber? (Uuid.bareSpelling (header.getD "").toList) = some number →
      ∃ id, ofHeader header = .ok id ∧ id.number.val = number) := by
  refine ⟨fun id text spells => ofHeader_of_spells spells, ?_, ?_, ?_⟩
  · intro id
    rw [Uuid.text, String.length_ofList, String.toList_ofList]
    exact ⟨id.chars_length, id.isCanonical_chars⟩
  · apply (ofHeader_cases header).imp_left
    rintro ⟨id, known⟩
    exact ⟨id, known, id.number.isLt, ofHeader_text id⟩
  · -- A numeral of 32 characters is less than 2 ^ 128, so that no bound is asked for here.
    intro number long read
    obtain ⟨plain, form, numeral⟩ := (Uuid.readHexNumber?_eq_some_iff _ number).mp read
    obtain ⟨id, spelled, same⟩ := Uuid.exists_ofLenient? long form numeral
    exact ⟨id, (ofHeader_eq_ok_iff header id).mpr spelled, same⟩

/-- Letters of both cases, a hyphen where no group ends, braces, and the name of the namespace in
front of them. -/
theorem decorated_spelling_is_read :
    let text := "urn:uuid:\x7b3FA85f64-5717-4562-b3fc-2c963F66-afa6\x7d"
    Uuid.Spells ⟨0x3fa85f6457174562b3fc2c963f66afa6⟩ text.toList ∧
      ofHeader (some text) = .ok ⟨0x3fa85f6457174562b3fc2c963f66afa6⟩ := by
  intro text
  have spells : Uuid.Spells ⟨0x3fa85f6457174562b3fc2c963f66afa6⟩ text.toList := by
    let groups := ["3FA85f64", "5717", "4562", "b3fc", "2c963F66", "afa6"].map String.toList
    have written : text.toList =
        Uuid.namespacePrefix ++ ('\x7b' :: (Text.joinWith '-' groups ++ ['\x7d'])) := by
      decide +kernel
    rw [written]
    exact .named (.braced (.digits (by decide +kernel) (Uuid.hyphenated_joinWith groups)))
  have read := (identity_is_canonicalised none).1 _ text.toList spells
  rw [String.ofList_toList] at read
  exact ⟨spells, read⟩

/-! ### Liberties -/

section

variable {text : String}

theorem ofHeader_iff_numeral (text : String) (id : Uuid) :
    ofHeader (some text) = .ok id ↔ (Uuid.bareSpelling text.toList).length = 32 ∧
      ∃ plain, Uuid.IsPlainForm (Uuid.bareSpelling text.toList) plain ∧
        Uuid.Numeral plain id.number.val := by
  rw [ofHeader_eq_ok_iff]
  exact Uuid.ofLenient?_eq_some_iff text.toList id

theorem exists_ofHeader_of_digits {number : Nat}
    (long : (Uuid.bareSpelling text.toList).length = 32)
    (spelled : Text.hexNumber? (Uuid.bareSpelling text.toList) = some number) :
    ∃ id, ofHeader (some text) = .ok id ∧ id.number.val = number := by
  obtain ⟨id, read, same⟩ := Uuid.exists_ofLenient?_of_digits long spelled
  exact ⟨id, (ofHeader_eq_ok_iff _ id).mpr read, same⟩

theorem digits_of_ofHeader
    (unmarked : ∀ c ∈ Uuid.bareSpelling text.toList, Uuid.isLiberty c = false)
    (known : ofHeader (some text) = .ok id) :
    (Uuid.bareSpelling text.toList).length = 32 ∧
      (∀ c ∈ Uuid.bareSpelling text.toList, Text.isHexDigit c = true) ∧
      Text.hexNumber? (Uuid.bareSpelling text.toList) = some id.number.val := by
  obtain ⟨long, plain, form, numeral⟩ := (ofHeader_iff_numeral text id).mp known
  have spelled := numeral.hexNumber?_of_unmarked form unmarked
  exact ⟨long, Text.hexDigits_of_hexNumber? spelled, spelled⟩

/-- Only an empty header is refused as a missing one. -/
theorem ofHeader_eq_invalid (present : text ≠ "") (refused : ∀ id, ofHeader (some text) ≠ .ok id) :
    ofHeader (some text) = .error invalid := by
  unfold ofHeader
  split
  next empty => exact absurd (String.toList_eq_nil_iff.mp empty) present
  next =>
    cases read : Uuid.ofLenient? ((some text).getD "").toList with
    | none => rfl
    | some id => exact absurd ((ofHeader_eq_ok_iff _ id).mpr read) (refused id)

end

/-- A header is accepted exactly if 32 characters are left of it, once the names of namespaces,
outer braces and hyphens are gone, that are a numeral; the caller is its number. So 32 digits
are accepted as the number that they spell, and if no liberty is taken nothing else is. What is
not accepted is refused as no identifier, unless there is nothing. -/
theorem accepted_iff_numeral (text : String) :
    let bare := Uuid.bareSpelling text.toList
    (∀ id, ofHeader (some text) = .ok id ↔ bare.length = 32 ∧
      ∃ plain, Uuid.IsPlainForm bare plain ∧ Uuid.Numeral plain id.number.val) ∧
    (∀ number, bare.length = 32 → Text.hexNumber? bare = some number →
      ∃ id, ofHeader (some text) = .ok id ∧ id.number.val = number) ∧
    ((∀ c ∈ bare, Uuid.isLiberty c = false) → ∀ id, ofHeader (some text) = .ok id →
      bare.length = 32 ∧ (∀ c ∈ bare, Text.isHexDigit c = true) ∧
        Text.hexNumber? bare = some id.number.val) ∧
    (text ≠ "" → (∀ id, ofHeader (some text) ≠ .ok id) →
      ofHeader (some text) = .error invalid ∧ invalid.status = 401) := by
  intro bare
  refine ⟨ofHeader_iff_numeral text, ?_, ?_, ?_⟩
  · intro number long spelled
    exact exists_ofHeader_of_digits long spelled
  · intro unmarked id known
    exact digits_of_ofHeader unmarked known
  · intro present refused
    exact ⟨ofHeader_eq_invalid present refused, rfl⟩

/-- The canonical text takes no liberty, and a word that spells nothing is refused. -/
theorem grouped_digits_are_accepted :
    let bare := Uuid.bareSpelling "3fa85f64-5717-4562-b3fc-2c963f66afa6".toList
    bare.length = 32 ∧ Text.hexNumber? bare = some 0x3fa85f6457174562b3fc2c963f66afa6 ∧
      (∀ c ∈ bare, Uuid.isLiberty c = false) ∧
      (∃ id, ofHeader (some "3fa85f64-5717-4562-b3fc-2c963f66afa6") = .ok id ∧
        id.number.val = 0x3fa85f6457174562b3fc2c963f66afa6 ∧
        ∀ c ∈ bare, Text.isHexDigit c = true) ∧
      ofHeader (some "not-a-uuid") = .error invalid := by
  intro bare
  have long : bare.length = 32 := by decide +kernel
  have spelled : Text.hexNumber? bare = some 0x3fa85f6457174562b3fc2c963f66afa6 := by
    decide +kernel
  have unmarked : ∀ c ∈ bare, Uuid.isLiberty c = false := by
    have none_taken : bare.all (!Uuid.isLiberty ·) = true := by decide +kernel
    intro c member
    simpa using List.all_eq_true.mp none_taken c member
  obtain ⟨-, digits_accepted, digits_only, -⟩ :=
    accepted_iff_numeral "3fa85f64-5717-4562-b3fc-2c963f66afa6"
  obtain ⟨id, known, same⟩ := digits_accepted _ long spelled
  have hex := (digits_only unmarked id known).2.1
  have unread : ∀ id, ofHeader (some "not-a-uuid") ≠ .ok id := by
    have unspelled : Uuid.ofLenient? "not-a-uuid".toList = none := by decide +kernel
    intro id read
    have spells := (ofHeader_eq_ok_iff _ id).mp read
    cases unspelled.symm.trans spells
  have refused := ((accepted_iff_numeral "not-a-uuid").2.2.2 (by decide) unread).1
  exact ⟨long, spelled, unmarked, ⟨id, known, same, hex⟩, refused⟩

/-- Of each of these headers 32 characters are left, which are not all digits: there is a mark
of the radix, a blank, a sign, an underscore, a digit of another script. All are accepted. -/
theorem liberties_are_accepted :
    let accepted (text : String) (number : Nat) : Prop :=
      (ofHeader (some text)).toOption.map (·.number.val) = some number ∧
        (Uuid.bareSpelling text.toList).any (!Text.isHexDigit ·) = true
    accepted "0xa85f6457174562b3fc2c963f66afa6" 0x00a85f6457174562b3fc2c963f66afa6 ∧
      accepted " fa85f6457174562b3fc2c963f66afa6" 0x0fa85f6457174562b3fc2c963f66afa6 ∧
      accepted "+fa85f6457174562b3fc2c963f66afa6" 0x0fa85f6457174562b3fc2c963f66afa6 ∧
      accepted "3_a85f6457174562b3fc2c963f66afa6" 0x03a85f6457174562b3fc2c963f66afa6 ∧
      accepted "\u0661fa85f6457174562b3fc2c963f66afa6" 0x1fa85f6457174562b3fc2c963f66afa6 := by
  intro accepted
  refine ⟨?_, ?_, ?_, ?_, ?_⟩ <;> exact ⟨by decide +kernel, by decide +kernel⟩

end ImageVault.Identity
