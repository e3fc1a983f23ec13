import ImageVault.MediaType

/-!
# Supported media types

The whitelist is read in both directions: a type is found by its own name, and nothing else
is found.
-/

namespace ImageVault.ImageType

theorem ofMime?_mime (type : ImageType) : ofMime? type.mime = some type := by
  cases type <;> simp [ofMime?, all, ImageType.mime]

theorem ofMime?_eq_some_iff (mime : String) (type : ImageType) :
    ofMime? mime = some type ↔ mime = type.mime := by
  constructor
  · intro found
    unfold ofMime? at found
    have named := List.find?_some found
    exact (beq_iff_eq.mp named).symm
  · rintro rfl
    exact ofMime?_mime type

theorem ofMime?_eq_none_iff (mime : String) :
    ofMime? mime = none ↔ mime ≠ "image/jpeg" ∧ mime ≠ "image/png" := by
  constructor
  · intro absent
    unfold ofMime? at absent
    have unnamed := List.find?_eq_none.mp absent
    constructor
    · rintro rfl
      exact unnamed jpeg (by simp [all]) rfl
    · rintro rfl
      exact unnamed png (by simp [all]) rfl
  · rintro ⟨noJpeg, noPng⟩
    simp [ofMime?, all, ImageType.mime, noJpeg.symm, noPng.symm]

theorem mime_injective {first second : ImageType} (same : first.mime = second.mime) :
    first = second := by
  have read := congrArg ofMime? same
  rw [ofMime?_mime, ofMime?_mime] at read
  exact Option.some.inj read

theorem extension_injective {first second : ImageType}
    (same : first.extension = second.extension) : first = second := by
  cases first <;> cases second <;> first | rfl | exact absurd same (by decide)

end ImageVault.ImageType
