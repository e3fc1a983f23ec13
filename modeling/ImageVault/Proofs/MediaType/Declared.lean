import ImageVault.Proofs.MediaType
import ImageVault.Proofs.Outcome
import ImageVault.Proofs.Text.LowerCase

/-!
# Declarations that are supported

## Main result

`whitelist_accepts_exactly`: a declaration is normalised once and for all, its parameters do not
matter, and it is supported exactly if what is in front of them names a supported type, in plain
letters of either case.

## Proof strategy

Each of the three steps leaves alone what it has made, and what the steps before it have made:
lowering brings neither a semicolon (`Text.semicolon_not_mem_lower`) nor a blank at an end
(`Text.lower_bare`). The names of the supported types are plain and hold no k, so only plain
letters become them (`Text.lower_eq_plain_iff`).
-/

namespace ImageVault

theorem ImageType.ofMime_eq_ok_iff (mime : String) (type : ImageType) :
    ofMime mime = .ok type ↔ mime = type.mime := by
  rw [← ofMime?_eq_some_iff]
  unfold ofMime
  cases ofMime? mime <;> simp

theorem ImageType.ofMime_eq_error {mime : String} {failure : Failure}
    (refused : ofMime mime = .error failure) : failure = unsupported mime := by
  unfold ofMime at refused
  split at refused
  · cases refused
  · cases refused
    rfl

namespace MediaType

variable {declared : List Char}

theorem semicolon_not_mem_takeWhile (declared : List Char) :
    ';' ∉ declared.takeWhile (· ≠ ';') := by
  intro member
  simpa using List.mem_takeWhile_imp member

theorem semicolon_not_mem_essence (declared : List Char) : ';' ∉ essence declared := by
  apply Text.semicolon_not_mem_lower
  intro member
  obtain ⟨-, before, after, whole, -, -⟩ :=
    (Text.trim_eq_iff (declared.takeWhile (· ≠ ';')) _).mp rfl
  apply semicolon_not_mem_takeWhile declared
  rw [whole]
  exact List.mem_append_left after (List.mem_append_right before member)

theorem essence_bare (declared : List Char) : Text.HasBareEnds Text.isBlank (essence declared) :=
  Text.lower_bare ((Text.trim_eq_iff _ _).mp rfl).1

theorem essence_essence (declared : List Char) : essence (essence declared) = essence declared := by
  have whole : (essence declared).takeWhile (· ≠ ';') = essence declared := by
    rw [List.takeWhile_eq_self_iff]
    intro c member
    have other : c ≠ ';' := by
      rintro rfl
      exact semicolon_not_mem_essence declared member
    simpa using other
  have trimmed : Text.trim (essence declared) = essence declared :=
    (essence_bare declared).stripEnds_eq
  calc essence (essence declared)
    _ = Text.lower (essence declared) := by rw [essence, whole, trimmed]
    _ = essence declared := Text.lower_lower _

/-- What stands behind a semicolon is not looked at. -/
theorem takeWhile_parameters (declared parameters : List Char) :
    (declared ++ ';' :: parameters).takeWhile (· ≠ ';') = declared.takeWhile (· ≠ ';') := by
  induction declared with
  | nil => simp
  | cons c rest ih =>
    rw [List.cons_append, List.takeWhile_cons, List.takeWhile_cons, ih]

/-- The names of the supported types are plain. -/
theorem mime_plain (type : ImageType) : ∀ d ∈ type.mime.toList, d.toNat < 128 ∧ d ≠ 'k' := by
  have each : type.mime.toList.all (fun d => d.toNat < 128 && d != 'k') = true := by
    cases type <;> decide +kernel
  intro d member
  simpa using List.all_eq_true.mp each d member

theorem toList_normalize (declared : String) :
    (normalize (some declared)).toList = essence declared.toList :=
  String.toList_ofList

/-- A declaration comes to a supported type if it states its name in letters of either case. -/
theorem normalize_eq_mime_iff (declared : String) (type : ImageType) :
    normalize (some declared) = type.mime ↔
      (Text.trim (declared.toList.takeWhile (· ≠ ';'))).map Char.toLower = type.mime.toList := by
  rw [← Text.lower_eq_plain_iff (mime_plain type), ← String.toList_inj, normalize,
    String.toList_ofList]
  rfl

/-- What is supported is stated in plain letters of either case, with nothing but blanks around
it. -/
theorem plain_of_supported {declared : String} {type : ImageType}
    (supported : normalize (some declared) = type.mime) :
    ∀ c ∈ Text.trim (declared.toList.takeWhile (· ≠ ';')), c.toNat < 128 := by
  apply Text.plain_of_map_toLower
  rw [(normalize_eq_mime_iff declared type).mp supported]
  intro d member
  exact (mime_plain type d member).1

/-- A declaration comes to the extension of the type that it states. -/
theorem extension_iff (declared : String) (type : ImageType) :
    (ImageType.ofMime (normalize (some declared))).map ImageType.extension = .ok type.extension ↔
      (Text.trim (declared.toList.takeWhile (· ≠ ';'))).map Char.toLower = type.mime.toList := by
  rw [map_eq_ok_iff, ← normalize_eq_mime_iff]
  constructor
  · rintro ⟨other, supported, same⟩
    rw [← ImageType.extension_injective same]
    exact (ImageType.ofMime_eq_ok_iff _ other).mp supported
  · intro supported
    exact ⟨type, (ImageType.ofMime_eq_ok_iff _ type).mpr supported, rfl⟩

theorem normalize_normalize (declared : String) :
    normalize (some (normalize (some declared))) = normalize (some declared) := by
  rw [← String.toList_inj, toList_normalize, toList_normalize]
  exact essence_essence declared.toList

/-- The first semicolon is the one in front of the parameters, or one before it. -/
theorem normalize_parameters (declared parameters : String) :
    normalize (some (declared ++ ";" ++ parameters)) = normalize (some declared) := by
  have behind : (declared ++ ";" ++ parameters).toList =
      declared.toList ++ ';' :: parameters.toList := by
    simp
  rw [← String.toList_inj, toList_normalize, toList_normalize, behind, essence,
    takeWhile_parameters]
  rfl

/-- What was trimmed from a statement is blank, and a supported statement itself is plain. -/
theorem plain_between_blanks {declared : String} {type : ImageType}
    (supported : normalize (some declared) = type.mime) :
    let stated := Text.trim (declared.toList.takeWhile (· ≠ ';'))
    ∃ before after, declared.toList.takeWhile (· ≠ ';') = before ++ stated ++ after ∧
      (∀ c ∈ before ++ after, Text.isBlank c = true) ∧ ∀ c ∈ stated, c.toNat < 128 := by
  obtain ⟨-, before, after, whole, front, back⟩ :=
    (Text.trim_eq_iff (declared.toList.takeWhile (· ≠ ';')) _).mp rfl
  refine ⟨before, after, whole, ?_, plain_of_supported supported⟩
  intro c member
  rcases List.mem_append.mp member with inFront | inBack
  · exact front c inFront
  · exact back c inBack

/-- For every declaration, with what it states in front of its first semicolon, blanks around
that left aside. Normalising it again changes nothing, and parameters do not matter; what it
comes to has no semicolon and no blank at an end. It is supported, with the extension that
belongs to its type, exactly if it states the name of a supported type in letters of either case;
then all that it states is plain, whatever blanks stand around it. Otherwise it is refused as
unsupported. -/
theorem whitelist_accepts_exactly (declared : String) :
    normalize (some (normalize (some declared))) = normalize (some declared) ∧
    (∀ parameters : String,
      normalize (some (declared ++ ";" ++ parameters)) = normalize (some declared)) ∧
    ';' ∉ (normalize (some declared)).toList ∧
    Text.HasBareEnds Text.isBlank (normalize (some declared)).toList ∧
    let stated := Text.trim (declared.toList.takeWhile (· ≠ ';'))
    let accepted := (ImageType.ofMime (normalize (some declared))).map ImageType.extension
    (accepted = .ok "png" ↔ stated.map Char.toLower = "image/png".toList) ∧
    (accepted = .ok "jpeg" ↔ stated.map Char.toLower = "image/jpeg".toList) ∧
    ((∃ extension, accepted = .ok extension ∧ (extension = "png" ∨ extension = "jpeg") ∧
        ∃ before after, declared.toList.takeWhile (· ≠ ';') = before ++ stated ++ after ∧
          (∀ c ∈ before ++ after, Text.isBlank c = true) ∧ ∀ c ∈ stated, c.toNat < 128) ∨
      ∃ failure, accepted = .error failure ∧ failure.kind = .unsupportedFormat) := by
  refine ⟨normalize_normalize declared, normalize_parameters declared, ?_, ?_,
    extension_iff declared .png, extension_iff declared .jpeg, ?_⟩
  · rw [toList_normalize]
    exact semicolon_not_mem_essence declared.toList
  · rw [toList_normalize]
    exact essence_bare declared.toList
  · cases supported : ImageType.ofMime (normalize (some declared)) with
    | error failure =>
      refine Or.inr ⟨failure, rfl, ?_⟩
      rw [ImageType.ofMime_eq_error supported]
      rfl
    | ok type =>
      have named := (ImageType.ofMime_eq_ok_iff _ type).mp supported
      refine Or.inl ⟨type.extension, rfl, ?_, plain_between_blanks named⟩
      cases type <;> simp [ImageType.extension]

/-- Blanks of other scripts around the name, letters of both cases, and parameters that are not
plain. -/
theorem padded_declaration_is_supported :
    (ImageType.ofMime (normalize (some "\u3000Image/PNG\u00a0; charset=\u00e9"))).map
      ImageType.extension = .ok "png" := by
  have stated : (Text.trim ("\u3000Image/PNG\u00a0; charset=\u00e9".toList.takeWhile
      (· ≠ ';'))).map Char.toLower = "image/png".toList := by decide +kernel
  exact (whitelist_accepts_exactly _).2.2.2.2.1.mpr stated

end MediaType

end ImageVault
