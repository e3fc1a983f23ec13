import ImageVault.Proofs.Filename
import ImageVault.Proofs.MediaType
import ImageVault.Proofs.PublicAddress
import ImageVault.Proofs.Raster.Decode
import ImageVault.Proofs.Store.Rows
import ImageVault.Proofs.Upload
import ImageVault.Vault

/-!
# How an upload ends

## Main result

`upload_iff_ends`: an upload ends exactly as the rules of `Ends` say, whatever is wrong with
it at once.

## Proof strategy

`Ends` has one rule for each stage that can refuse an upload, with the stages before it as
premises, and one for success. The premises of a rule fix every stage up to the one that
decides, so a rule that applies says how the upload ends (`Ends.eq_upload`). Each stage is
total and decides one premise, so some rule applies (`exists_ends`).
-/

namespace ImageVault.Pipeline

/-! ### The rules -/

/-- The name of an upload whose media type is supported. -/
def filenameOf (stream : ChunkStream) (moment : Moment) (type : ImageType) : String :=
  Filename.ofType moment.token stream.chunks.flatten.length type moment.nanoseconds

theorem filenameOf_form (stream : ChunkStream) (moment : Moment) (type : ImageType) :
    Filename.HasForm type (filenameOf stream moment type) :=
  Filename.ofType_form moment.token stream.chunks.flatten.length type moment.nanoseconds

/-- The row of an upload that no stage refuses. -/
def rowOf (stream : ChunkStream) (declared : Option String) (owner : Uuid) (moment : Moment)
    (type : ImageType) (picture : Raster.Picture) (url : String) : StoredImage :=
  { id := moment.rowId
    ownerId := owner
    height := picture.extent.height
    width := picture.extent.width
    mime := MediaType.normalize declared
    filename := filenameOf stream moment type
    url := url
    size := stream.chunks.flatten.length
    content := stream.chunks.flatten }

/-- The upload is received, its declared type is supported, and it decodes. -/
structure Recognised (policy : Policy) (stream : ChunkStream) (declared : Option String)
    (type : ImageType) (picture : Raster.Picture) : Prop where
  received : (stream.receive policy.sizeLimit).outcome = .ok stream.chunks.flatten
  supported : MediaType.normalize declared = type.mime
  decoded : Raster.decode stream.chunks.flatten = .ok picture

/-- The address for an upload of this type. -/
def addressOf (policy : Policy) (stream : ChunkStream) (moment : Moment) (type : ImageType) :
    Except Fault String :=
  PublicAddress.resolve policy.serverUrl (Vault.imagesPath ++ "/" ++ filenameOf stream moment type)

/-- How an upload ends: the store after it, and the row or the first refusal. -/
inductive Ends (store : Store) (policy : Policy) (stream : ChunkStream)
    (declared : Option String) (owner : Uuid) (moment : Moment) :
    Store → Except Fault StoredImage → Prop
  | unreceived {failure : Failure} :
      (stream.receive policy.sizeLimit).outcome = .error failure →
      Ends store policy stream declared owner moment store (.error (.failure failure))
  | unsupported :
      (stream.receive policy.sizeLimit).outcome = .ok stream.chunks.flatten →
      MediaType.normalize declared ≠ "image/jpeg" →
      MediaType.normalize declared ≠ "image/png" →
      Ends store policy stream declared owner moment store
        (.error (.failure (ImageType.unsupported (MediaType.normalize declared))))
  | undecodable {type : ImageType} :
      (stream.receive policy.sizeLimit).outcome = .ok stream.chunks.flatten →
      MediaType.normalize declared = type.mime →
      (∀ picture, Raster.decode stream.chunks.flatten ≠ .ok picture) →
      Ends store policy stream declared owner moment store (.error (.failure Raster.undecodable))
  | unaddressed {type : ImageType} {picture : Raster.Picture} {failure : Failure} :
      Recognised policy stream declared type picture →
      PublicAddress.Refuses policy.serverUrl failure →
      Ends store policy stream declared owner moment store (.error (.failure failure))
  /-- Some base addresses cannot even be cut into parts, which is no failure of the pipeline. -/
  | unreadableAddress {type : ImageType} {picture : Raster.Picture} {defect : Url.Defect} :
      Recognised policy stream declared type picture →
      addressOf policy stream moment type = .error (.address defect) →
      Ends store policy stream declared owner moment store (.error (.address defect))
  | unavailable {type : ImageType} {picture : Raster.Picture} {url : String} :
      Recognised policy stream declared type picture →
      addressOf policy stream moment type = .ok url →
      store.condition ≠ .ready →
      Ends store policy stream declared owner moment store
        (.error (.failure (.of .persistence "Unable to store image"
          [("filename", .string (filenameOf stream moment type))])))
  | taken {type : ImageType} {picture : Raster.Picture} {url : String} :
      Recognised policy stream declared type picture →
      addressOf policy stream moment type = .ok url →
      store.condition = .ready →
      store.Taken (rowOf stream declared owner moment type picture url) →
      Ends store policy stream declared owner moment store
        (.error (.failure (.of .persistence "Image violates a storage constraint"
          [("filename", .string (filenameOf stream moment type))])))
  | stored {type : ImageType} {picture : Raster.Picture} {url : String} :
      Recognised policy stream declared type picture →
      addressOf policy stream moment type = .ok url →
      store.condition = .ready →
      ¬store.Taken (rowOf stream declared owner moment type picture url) →
      Ends store policy stream declared owner moment
        (store.add (rowOf stream declared owner moment type picture url))
        (.ok (rowOf stream declared owner moment type picture url))

/-! ### The pipeline in two halves -/

variable (vault : Vault) (policy : Policy) (stream : ChunkStream) (declared : Option String)
  (owner : Uuid) (moment : Moment)

/-- The image that is to be stored once the first half of the pipeline is passed. -/
def imageOf (type : ImageType) (picture : Raster.Picture) (url : String) : NewImage :=
  { height := some picture.extent.height
    width := some picture.extent.width
    mime := some (MediaType.normalize declared)
    filename := some (filenameOf stream moment type)
    url := some url
    content := stream.chunks.flatten }

theorem draft_of_unreceived {failure : Failure}
    (refused : (stream.receive policy.sizeLimit).outcome = .error failure) :
    (Vault.draft policy stream declared moment).result = .error (.failure failure) := by
  simp [Vault.draft, refused]

theorem draft_of_received {content : Bytes}
    (received : (stream.receive policy.sizeLimit).outcome = .ok content) :
    (Vault.draft policy stream declared moment).result =
      (Identification.identify content (MediaType.normalize declared) >>=
        fun found => addressOf policy stream moment found.type >>=
          fun url => .ok (imageOf stream declared moment found.type found.picture url)) := by
  have whole := ChunkStream.receive_eq_ok received
  subst whole
  simp [Vault.draft, received, imageOf, addressOf, filenameOf]

theorem upload_of_draft_error {fault : Fault}
    (refused : (Vault.draft policy stream declared moment).result = .error fault) :
    (vault.upload policy stream declared owner moment).1.store = vault.store ∧
    (vault.upload policy stream declared owner moment).2.result = .error fault := by
  simp only [Vault.upload, Vault.persist, refused]
  cases fault <;> simp [Vault.account]

theorem upload_of_draft_ok {image : NewImage}
    (drafted : (Vault.draft policy stream declared moment).result = .ok image) :
    (vault.upload policy stream declared owner moment).1.store =
      (vault.store.save moment.rowId owner image).1 ∧
    (vault.upload policy stream declared owner moment).2.result =
      (vault.store.save moment.rowId owner image).2.result := by
  simp only [Vault.upload, Vault.persist, drafted, Vault.save]
  unfold Vault.account
  split <;> simp_all

/-! ### Each half by its stages -/

variable {vault policy stream declared owner moment}
variable {type : ImageType} {picture : Raster.Picture} {url : String}

theorem identify_unsupported (content : Bytes) (mime : String)
    (noJpeg : mime ≠ "image/jpeg") (noPng : mime ≠ "image/png") :
    Identification.identify content mime = .error (.failure (ImageType.unsupported mime)) := by
  have unknown := (ImageType.ofMime?_eq_none_iff mime).mpr ⟨noJpeg, noPng⟩
  simp [Identification.identify, ImageType.ofMime, unknown]

theorem identify_supported (content : Bytes) (type : ImageType) :
    Identification.identify content type.mime =
      (Raster.decode content >>= fun picture =>
        .ok ⟨type, picture, Identification.warnings type picture.format⟩) := by
  simp [Identification.identify, ImageType.ofMime, ImageType.ofMime?_mime]

/-- What is recognised is drafted as soon as it has an address. -/
theorem draft_of_recognised (recognised : Recognised policy stream declared type picture) :
    (Vault.draft policy stream declared moment).result =
      (addressOf policy stream moment type >>=
        fun url => .ok (imageOf stream declared moment type picture url)) := by
  rw [draft_of_received policy stream declared moment recognised.received,
    recognised.supported, identify_supported, recognised.decoded]
  rfl

theorem draft_of_addressed (recognised : Recognised policy stream declared type picture)
    (addressed : addressOf policy stream moment type = .ok url) :
    (Vault.draft policy stream declared moment).result =
      .ok (imageOf stream declared moment type picture url) := by
  rw [draft_of_recognised recognised, addressed]
  rfl

theorem ofNew?_imageOf (stream : ChunkStream) (declared : Option String) (owner : Uuid)
    (moment : Moment) (type : ImageType) (picture : Raster.Picture) (url : String) :
    StoredImage.ofNew? moment.rowId owner (imageOf stream declared moment type picture url) =
      some (rowOf stream declared owner moment type picture url) :=
  rfl

/-- The sides of a decoded picture are far from the bounds of the table. -/
theorem fits_of_decoded {content : Bytes} (decoded : Raster.decode content = .ok picture) :
    Store.fits picture.extent.height = true ∧ Store.fits picture.extent.width = true := by
  have sides := Raster.decode_sides_le decoded
  have small : Raster.pixelLimit < 2 ^ 63 := by decide
  simp only [Store.fits, Bool.and_eq_true, decide_eq_true_eq]
  omega

theorem persisted_of_ready (recognised : Recognised policy stream declared type picture)
    (addressed : addressOf policy stream moment type = .ok url)
    (ready : vault.store.condition = .ready) :
    (vault.store.Taken (rowOf stream declared owner moment type picture url) →
      (vault.upload policy stream declared owner moment).1.store = vault.store ∧
      (vault.upload policy stream declared owner moment).2.result =
        .error (.failure (.of .persistence "Image violates a storage constraint"
          [("filename", .string (filenameOf stream moment type))]))) ∧
    (¬vault.store.Taken (rowOf stream declared owner moment type picture url) →
      (vault.upload policy stream declared owner moment).1.store =
        vault.store.add (rowOf stream declared owner moment type picture url) ∧
      (vault.upload policy stream declared owner moment).2.result =
        .ok (rowOf stream declared owner moment type picture url)) := by
  have drafted := draft_of_addressed recognised addressed
  have ⟨stored, replied⟩ := upload_of_draft_ok vault policy stream declared owner moment drafted
  have ⟨highFits, wideFits⟩ := fits_of_decoded recognised.decoded
  -- The image is complete and its sides fit, so only the keys can stand in its way.
  have saved := Store.save_of_ready ready
    (ofNew?_imageOf stream declared owner moment type picture url) highFits wideFits
  rw [stored, replied]
  constructor
  · intro taken
    rw [saved.1 taken]
    exact ⟨rfl, rfl⟩
  · intro free
    rw [saved.2 free]
    exact ⟨rfl, rfl⟩

/-! ### The pipeline follows the rules -/

/-- The premises of a rule fix every stage up to the one that decides. -/
theorem Ends.eq_upload {after : Store} {result : Except Fault StoredImage}
    (ends : Ends vault.store policy stream declared owner moment after result) :
    (vault.upload policy stream declared owner moment).1.store = after ∧
    (vault.upload policy stream declared owner moment).2.result = result := by
  -- Up to the address a refusal ends the draft; from then on the store decides.
  cases ends with
  | unreceived refused =>
    exact upload_of_draft_error vault policy stream declared owner moment
      (draft_of_unreceived policy stream declared moment refused)
  | unsupported received noJpeg noPng =>
    refine upload_of_draft_error vault policy stream declared owner moment ?_
    rw [draft_of_received policy stream declared moment received,
      identify_unsupported _ _ noJpeg noPng]
    rfl
  | @undecodable type received supported garbled =>
    refine upload_of_draft_error vault policy stream declared owner moment ?_
    have undecodable : Raster.decode stream.chunks.flatten =
        .error (.failure Raster.undecodable) :=
      (Raster.decode_cases _).resolve_left fun ⟨picture, decoded⟩ => garbled picture decoded
    rw [draft_of_received policy stream declared moment received, supported,
      identify_supported, undecodable]
    rfl
  | @unaddressed type picture failure recognised refuses =>
    refine upload_of_draft_error vault policy stream declared owner moment ?_
    have refused : addressOf policy stream moment type = .error (.failure failure) :=
      (PublicAddress.resolve_eq_failure_iff _ _ _).mpr refuses
    rw [draft_of_recognised recognised, refused]
    rfl
  | unreadableAddress recognised unreadable =>
    refine upload_of_draft_error vault policy stream declared owner moment ?_
    rw [draft_of_recognised recognised, unreadable]
    rfl
  | @unavailable type picture url recognised addressed unready =>
    have drafted := draft_of_addressed recognised addressed
    have ⟨kept, replied⟩ := upload_of_draft_ok vault policy stream declared owner moment drafted
    rw [kept, replied, Store.save_of_not_ready unready]
    exact ⟨rfl, rfl⟩
  | taken recognised addressed ready taken =>
    exact (persisted_of_ready recognised addressed ready).1 taken
  | stored recognised addressed ready free =>
    exact (persisted_of_ready recognised addressed ready).2 free

/-- Some rule applies: the stages are decided one after the other, and each is total. -/
theorem exists_ends (store : Store) (policy : Policy) (stream : ChunkStream)
    (declared : Option String) (owner : Uuid) (moment : Moment) :
    ∃ after result, Ends store policy stream declared owner moment after result := by
  cases intake : (stream.receive policy.sizeLimit).outcome with
  | error failure => exact ⟨_, _, .unreceived intake⟩
  | ok content =>
    -- What is received is the whole stream, which is how the rules name it.
    have whole := ChunkStream.receive_eq_ok intake
    subst whole
    cases known : ImageType.ofMime? (MediaType.normalize declared) with
    | none =>
      have ⟨noJpeg, noPng⟩ := (ImageType.ofMime?_eq_none_iff _).mp known
      exact ⟨_, _, .unsupported intake noJpeg noPng⟩
    | some type =>
      have supported := (ImageType.ofMime?_eq_some_iff _ type).mp known
      rcases Raster.decode_cases stream.chunks.flatten with ⟨picture, decoded⟩ | garbled
      · have recognised : Recognised policy stream declared type picture :=
          ⟨intake, supported, decoded⟩
        cases address : addressOf policy stream moment type with
        | ok url =>
          by_cases ready : store.condition = .ready
          · by_cases taken : store.Taken (rowOf stream declared owner moment type picture url)
            · exact ⟨_, _, .taken recognised address ready taken⟩
            · exact ⟨_, _, .stored recognised address ready taken⟩
          · exact ⟨_, _, .unavailable recognised address ready⟩
        | error fault =>
          -- A refused base address is a failure; one that cannot be read is none.
          rcases PublicAddress.resolve_error_cases address with ⟨failure, rfl⟩ | ⟨defect, rfl⟩
          · have refuses := (PublicAddress.resolve_eq_failure_iff _ _ failure).mp address
            exact ⟨_, _, .unaddressed recognised refuses⟩
          · exact ⟨_, _, .unreadableAddress recognised address⟩
      · refine ⟨_, _, .undecodable intake supported fun picture decoded => ?_⟩
        rw [garbled] at decoded
        cases decoded

/-- Running the pipeline follows a rule. -/
theorem upload_ends (vault : Vault) (policy : Policy) (stream : ChunkStream)
    (declared : Option String) (owner : Uuid) (moment : Moment) :
    Ends vault.store policy stream declared owner moment
      (vault.upload policy stream declared owner moment).1.store
      (vault.upload policy stream declared owner moment).2.result := by
  obtain ⟨after, result, ends⟩ := exists_ends vault.store policy stream declared owner moment
  have ⟨stored, replied⟩ := ends.eq_upload
  rw [stored, replied]
  exact ends

/-- An upload ends in one way, and the rules tell which: the earliest stage that refuses it
    gives its failure and leaves the store as it was, and what no stage refuses is stored. -/
theorem upload_iff_ends (vault : Vault) (policy : Policy) (stream : ChunkStream)
    (declared : Option String) (owner : Uuid) (moment : Moment) (after : Store)
    (result : Except Fault StoredImage) :
    ((vault.upload policy stream declared owner moment).1.store = after ∧
      (vault.upload policy stream declared owner moment).2.result = result) ↔
      Ends vault.store policy stream declared owner moment after result := by
  constructor
  · rintro ⟨rfl, rfl⟩
    exact upload_ends vault policy stream declared owner moment
  · exact Ends.eq_upload

/-! ### What the rules imply -/

section Implied

variable {store after : Store} {row : StoredImage}

/-- Only one rule gives back a row. -/
theorem Ends.of_ok (ends : Ends store policy stream declared owner moment after (.ok row)) :
    ∃ type picture url, Recognised policy stream declared type picture ∧
      row = rowOf stream declared owner moment type picture url ∧
      store.Admits row ∧ after = store.add row := by
  cases ends with
  | stored recognised addressed ready free =>
    exact ⟨_, _, _, recognised, rfl, ⟨ready, free, rfl⟩, rfl⟩

theorem Ends.of_error {fault : Fault}
    (ends : Ends store policy stream declared owner moment after (.error fault)) :
    after = store := by
  cases ends <;> rfl

theorem Ends.owner_eq (ends : Ends store policy stream declared owner moment after (.ok row)) :
    row.ownerId = owner := by
  obtain ⟨type, picture, url, -, rfl, -, -⟩ := ends.of_ok
  rfl

/-- Uploaded images have pixels. -/
theorem Ends.sides_positive
    (ends : Ends store policy stream declared owner moment after (.ok row)) :
    0 < row.height ∧ 0 < row.width := by
  obtain ⟨type, picture, url, recognised, rfl, -, -⟩ := ends.of_ok
  obtain ⟨wide, high, -⟩ := Raster.decode_extent recognised.decoded
  exact ⟨Int.natCast_pos.mpr high, Int.natCast_pos.mpr wide⟩

end Implied

/-- An upload is one access to the store. -/
theorem upload_commits (vault : Vault) (policy : Policy) (stream : ChunkStream)
    (declared : Option String) (owner : Uuid) (moment : Moment) :
    vault.store.Commits (vault.upload policy stream declared owner moment).1.store
      (vault.upload policy stream declared owner moment).2.result := by
  obtain ⟨after, result, ends⟩ := exists_ends vault.store policy stream declared owner moment
  have ⟨stored, replied⟩ := ends.eq_upload
  rw [stored, replied]
  cases result with
  | ok row =>
    obtain ⟨-, -, -, -, -, admitted, rfl⟩ := ends.of_ok
    exact .stored row admitted
  | error fault =>
    obtain rfl := ends.of_error
    exact .refused fault

end ImageVault.Pipeline
