import ImageVault.Proofs.Filename
import ImageVault.Proofs.Number.Decimal
import ImageVault.Proofs.Pipeline
import ImageVault.Proofs.PublicAddress.Shape
import ImageVault.Proofs.Text.Split
import ImageVault.Proofs.Text.Utf8
import ImageVault.Proofs.Uuid
import ImageVault.Upload.SpooledFile

/-!
# Names that tell uploads apart

## Main result

`names_tell_uploads_apart`: what is hashed for a name determines all that the name is made
from, so that two names are equal only if their ingredients are, or if the digest of two
different texts is the same.

## Proof strategy

The token has a fixed length, and the other ingredients hold no underscore, so a seed can be
cut into its parts again. Each part is written injectively, and so are the bytes of a seed and
the digits of a digest. What is left between a seed and a name is the digest alone.
-/

namespace ImageVault.Filename

/-! ### Seeds -/

/-- What a name is made from. -/
structure Ingredients where
  token : Uuid
  size : Int
  type : ImageType
  nanoseconds : Int

/-- The bytes that are hashed for a seed. -/
def message (seed : List Char) : Bytes :=
  (String.ofList seed).toUTF8.toList

/-- The seeds are written with different bytes, and these have the same digest. -/
def Collide (first second : List Char) : Prop :=
  message first ≠ message second ∧
    Digest.blake2b 8 (message first) = Digest.blake2b 8 (message second)

namespace Ingredients

def seed (ingredients : Ingredients) : List Char :=
  Filename.seed ingredients.token ingredients.size ingredients.type ingredients.nanoseconds

def made (ingredients : Ingredients) : Except Failure String :=
  make ingredients.token ingredients.size ingredients.type.mime ingredients.nanoseconds

/-- The ingredients are the same, as far as times are told apart. -/
structure Coincide (first second : Ingredients) : Prop where
  token : first.token = second.token
  size : first.size = second.size
  mime : first.type.mime = second.type.mime
  milliseconds : first.nanoseconds.fdiv 1000000 = second.nanoseconds.fdiv 1000000

variable {first second : Ingredients}

theorem underscore_not_mem_extension (type : ImageType) : '_' ∉ type.extension.toList := by
  cases type <;> decide

/-- A seed can be cut into the ingredients that it was put together from. -/
theorem seed_eq_iff : first.seed = second.seed ↔ first.Coincide second := by
  constructor
  · intro same
    simp only [seed, Filename.seed, List.append_assoc] at same
    obtain ⟨tokens, same⟩ := List.append_inj same (by rw [Uuid.chars_length, Uuid.chars_length])
    obtain ⟨sizes, same⟩ := Text.cut_unique (Number.underscore_not_mem_intText _)
      (Number.underscore_not_mem_intText _) (List.cons.inj same).2
    obtain ⟨extensions, times⟩ := Text.cut_unique (underscore_not_mem_extension _)
      (underscore_not_mem_extension _) same
    have types := ImageType.extension_injective (String.toList_inj.mp extensions)
    exact ⟨Uuid.chars_injective tokens, Number.intText_injective sizes,
      congrArg ImageType.mime types, Number.intText_injective times⟩
  · rintro ⟨tokens, sizes, mimes, times⟩
    rw [seed, seed, tokens, sizes, ImageType.mime_injective mimes]
    simp only [Filename.seed, times]

/-! ### Names -/

theorem digestText_eq_iff (one other : List Char) :
    digestText one = digestText other ↔ one = other ∨ Collide one other := by
  constructor
  · intro same
    by_cases equal : message one = message other
    · exact Or.inl (Text.utf8_injective equal)
    · exact Or.inr ⟨equal, Text.hexOfBytes_injective same⟩
  · rintro (rfl | ⟨-, digests⟩)
    · rfl
    · exact congrArg Text.hexOfBytes digests

theorem made_eq (ingredients : Ingredients) :
    ingredients.made = .ok (String.ofList
      (digestText ingredients.seed ++ '.' :: ingredients.type.extension.toList)) := by
  rw [made, make, ImageType.ofMime, ImageType.ofMime?_mime]
  rfl

/-- The digest has a fixed length, so that the extension can be told from it. -/
theorem made_eq_iff : first.made = second.made ↔ first.type.mime = second.type.mime ∧
    (first.Coincide second ∨ Collide first.seed second.seed) := by
  rw [made_eq, made_eq, ← seed_eq_iff, ← digestText_eq_iff]
  constructor
  · intro same
    obtain ⟨digests, extensions⟩ := List.append_inj (String.ofList_injective (Except.ok.inj same))
      (by rw [digestText_length, digestText_length])
    have types := ImageType.extension_injective (String.toList_inj.mp (List.cons.inj extensions).2)
    exact ⟨congrArg ImageType.mime types, digests⟩
  · rintro ⟨mimes, digests⟩
    rw [digests, ImageType.mime_injective mimes]

theorem made_ne (tokens : first.token ≠ second.token)
    (safe : ¬Collide first.seed second.seed) : first.made ≠ second.made := by
  intro same
  rcases (made_eq_iff.mp same).2 with coincide | collide
  · exact tokens coincide.token
  · exact safe collide

end Ingredients

/-! ### Runs -/

/-- An upload that is to be named. -/
structure Attempt where
  policy : Policy
  stream : ChunkStream
  declared : Option String
  moment : Moment

namespace Attempt

/-- What the name is made from, if the declared type is supported. -/
def ingredients? (attempt : Attempt) : Option Ingredients :=
  (ImageType.ofMime? (MediaType.normalize attempt.declared)).map fun type =>
    ⟨attempt.moment.token, attempt.stream.chunks.flatten.length, type, attempt.moment.nanoseconds⟩

/-- The name under which the upload is to be stored, if it comes so far. -/
def filename? (attempt : Attempt) : Option String :=
  (Vault.draft attempt.policy attempt.stream attempt.declared
    attempt.moment).result.toOption.bind (·.filename)

/-- A name is made from the size that was received, the type that was declared, and the token
    and the time of the moment. -/
theorem filename_made {attempt : Attempt} {filename : String}
    (named : attempt.filename? = some filename) : ∃ ingredients,
      attempt.ingredients? = some ingredients ∧ ingredients.token = attempt.moment.token ∧
        ingredients.made = .ok filename := by
  obtain ⟨policy, stream, declared, moment⟩ := attempt
  cases drafted : (Vault.draft policy stream declared moment).result with
  | error fault => simp [filename?, drafted, Except.toOption] at named
  | ok image =>
    have given : image.filename = some filename := by
      simpa [filename?, drafted, Except.toOption] using named
    cases intake : (stream.receive policy.sizeLimit).outcome with
    | error failure =>
      rw [Pipeline.draft_of_unreceived policy stream declared moment intake] at drafted
      cases drafted
    | ok content =>
      rw [Pipeline.draft_of_received policy stream declared moment intake, bind_eq_ok_iff]
        at drafted
      obtain ⟨found, identified, addressed⟩ := drafted
      obtain ⟨url, -, same⟩ := (bind_eq_ok_iff _ _ _).mp addressed
      cases same
      cases known : ImageType.ofMime? (MediaType.normalize declared) with
      | none =>
        obtain ⟨noJpeg, noPng⟩ := (ImageType.ofMime?_eq_none_iff _).mp known
        rw [Pipeline.identify_unsupported content _ noJpeg noPng] at identified
        cases identified
      | some type =>
        rw [(ImageType.ofMime?_eq_some_iff _ _).mp known, Pipeline.identify_supported,
          bind_eq_ok_iff] at identified
        obtain ⟨picture, -, same⟩ := identified
        cases same
        refine ⟨_, by simp only [ingredients?, known]; rfl, rfl, ?_⟩
        rw [Ingredients.made_eq, ← Option.some.inj given]
        rfl

end Attempt

/-- A seed loses none of the ingredients of a name. So two names are equal exactly if their
    types are and either all that is hashed is the same or the digest of two different seeds
    is. In a run without such a collision, different tokens give different names, whatever is
    uploaded. Each supported type has names, all of one form, and no other type has any. -/
theorem names_tell_uploads_apart :
    (∀ first second : Ingredients,
      (first.seed = second.seed ↔ first.Coincide second) ∧
      (first.made = second.made ↔ first.type.mime = second.type.mime ∧
        (first.Coincide second ∨ Collide first.seed second.seed))) ∧
    (∀ calls : List Ingredients, (calls.map (·.token)).Nodup →
      calls.Pairwise (fun first second => ¬Collide first.seed second.seed) →
      (calls.map (·.made)).Nodup) ∧
    (∀ uploads : List Attempt, (uploads.map (·.moment.token)).Nodup →
      (uploads.filterMap Attempt.ingredients?).Pairwise
        (fun first second => ¬Collide first.seed second.seed) →
      (uploads.filterMap Attempt.filename?).Nodup) ∧
    (∀ ingredients : Ingredients, ∃ filename, ingredients.made = .ok filename ∧
      HasForm ingredients.type filename) ∧
    ∀ token size mime nanoseconds, mime ≠ "image/jpeg" → mime ≠ "image/png" →
      ∃ failure, make token size mime nanoseconds = .error failure ∧
        failure.kind = .unsupportedFormat ∧ failure = ImageType.unsupported mime := by
  refine ⟨fun first second => ⟨Ingredients.seed_eq_iff, Ingredients.made_eq_iff⟩, ?_, ?_, ?_, ?_⟩
  · intro calls tokens safe
    rw [List.Nodup, List.pairwise_map] at tokens ⊢
    exact (tokens.and safe).imp fun ⟨token, apart⟩ => Ingredients.made_ne token apart
  · intro uploads tokens safe
    rw [List.Nodup, List.pairwise_map] at tokens
    rw [List.pairwise_filterMap] at safe
    rw [List.Nodup, List.pairwise_filterMap]
    refine (tokens.and safe).imp ?_
    rintro first second ⟨token, apart⟩ name named _ otherNamed rfl
    obtain ⟨one, from_one, one_token, made⟩ := Attempt.filename_made named
    obtain ⟨other, from_other, other_token, otherMade⟩ := Attempt.filename_made otherNamed
    rw [← one_token, ← other_token] at token
    exact Ingredients.made_ne token (apart one from_one other from_other)
      (made.trans otherMade.symm)
  · intro ingredients
    exact ⟨_, ingredients.made_eq, _, digestText_length _, fun _ => mem_digestText, rfl⟩
  · intro token size mime nanoseconds noJpeg noPng
    refine ⟨_, ?_, rfl, rfl⟩
    rw [make, ImageType.ofMime, (ImageType.ofMime?_eq_none_iff mime).mpr ⟨noJpeg, noPng⟩]
    rfl

/-- The smallest bitmap, to be named with this token. -/
def twin (token : Uuid) : Attempt :=
  ⟨⟨some "http://localhost", none⟩, Upload.stream 64 3 Raster.smallestBitmap, some "image/png",
    ⟨⟨0⟩, token, 0, .whole 0, .whole 0⟩⟩

/-- Two uploads that differ in nothing but their tokens. -/
theorem twins_are_told_apart :
    ∃ first second, (twin ⟨1⟩).filename? = some first ∧ (twin ⟨2⟩).filename? = some second ∧
      first ≠ second := by
  have supported : MediaType.normalize (some "image/png") = ImageType.png.mime := by
    decide +kernel
  have ingredients : ∀ token, (twin token).ingredients? = some ⟨token, 8, .png, 0⟩ := by
    intro token
    simp only [Attempt.ingredients?, twin, supported, ImageType.ofMime?_mime]
    rfl
  have drafts : ∀ token, ∃ filename, (twin token).filename? = some filename := by
    intro token
    obtain ⟨picture, decoded⟩ := Raster.smallestBitmap_decodes
    have recognised : Pipeline.Recognised (twin token).policy (twin token).stream
        (twin token).declared .png picture :=
      ⟨rfl, supported, decoded⟩
    have web : PublicAddress.IsWeb (PublicAddress.stripped (some "http://localhost"))
        ⟨"http".toList, "localhost".toList, [], [], []⟩ :=
      ⟨rfl, Or.inl rfl, by decide⟩
    have form := Pipeline.filenameOf_form (twin token).stream (twin token).moment .png
    have addressed := PublicAddress.resolve_of_web web form.imagePath_plain
      (PublicAddress.imagePath_written _)
    have drafted := Pipeline.draft_of_addressed recognised addressed
    exact ⟨_, by rw [Attempt.filename?, drafted]; rfl⟩
  have apart : Digest.blake2b 8 (message (Ingredients.mk ⟨1⟩ 8 .png 0).seed) ≠
      Digest.blake2b 8 (message (Ingredients.mk ⟨2⟩ 8 .png 0).seed) := by
    decide +kernel
  have distinct := names_tell_uploads_apart.2.2.1 [twin ⟨1⟩, twin ⟨2⟩] (by decide) (by
    rw [List.pairwise_filterMap, List.pairwise_pair]
    intro first one second other collide
    rw [ingredients] at one other
    cases one
    cases other
    exact apart collide.2)
  obtain ⟨first, named⟩ := drafts ⟨1⟩
  obtain ⟨second, otherNamed⟩ := drafts ⟨2⟩
  simp only [List.filterMap_cons, named, otherNamed, List.filterMap_nil, List.nodup_cons,
    List.mem_singleton] at distinct
  exact ⟨first, second, named, otherNamed, distinct.1⟩

end ImageVault.Filename
