import ImageVault.Proofs.Pipeline

/-!
# What a declaration decides

## Main result

`mismatch_is_never_silent`: which of the supported types is declared makes no difference to
decoding, but a declaration that does not agree with the decoded format is warned about, so a
file that passes without a warning has the signature of the type that it is declared as.

## Proof strategy

The declaration is looked at before the file and then only carried along, so both supported
declarations end as decoding does (`identify_decoded`, `identify_undecodable`). A picture is
of the format whose signature the file was recognised by (`decode_accepts`), and the warning
is left out for one declaration at most, that of this format.
-/

namespace ImageVault

/-! ### Signatures -/

/-- The bytes that files of the type start with. -/
def ImageType.signature : ImageType → Bytes
  | jpeg => [0xFF, 0xD8, 0xFF]
  | png => [0x89, 0x50, 0x4E, 0x47, 0x0D, 0x0A, 0x1A, 0x0A]

namespace Raster

/-- The media type of a format, if it is one of those that have one here. -/
def Format.mime? (format : Format) : Option String :=
  format.imageType?.map ImageType.mime

theorem Format.mime?_eq_some_iff (format : Format) (type : ImageType) :
    format.mime? = some type.mime ↔ format.imageType? = some type := by
  constructor
  · intro named
    obtain ⟨other, known, same⟩ := Option.map_eq_some_iff.mp named
    rw [known, ImageType.mime_injective same]
  · intro known
    rw [mime?, known]
    rfl

/-- The two formats with a media type of their own are told by its signature. -/
theorem Format.signature_of_accepts {format : Format} {type : ImageType} {content : Bytes}
    (known : format.imageType? = some type) (accepted : format.accepts content = true) :
    type.signature <+: content := by
  cases format with
  | png =>
    cases known
    exact List.isPrefixOf_iff_prefix.mp accepted
  | jpeg =>
    cases known
    exact List.isPrefixOf_iff_prefix.mp accepted
  | gif => cases known
  | bmp => cases known
  | pnm => cases known

/-- A picture is of the format that the file was recognised as. -/
theorem decode_accepts {content : Bytes} {picture : Picture}
    (decoded : decode content = .ok picture) : picture.format.accepts content = true := by
  have whole := (decode_eq_ok_iff content picture).mp decoded
  simp only [read, bind_eq_ok_iff, pure_eq_ok, Except.ok.injEq] at whole
  obtain ⟨format, found, -, -, -, -, rfl⟩ := whole
  -- The format that was looked up is the first one that accepts the file.
  cases recognised : Format.ofSignature? content with
  | none =>
    rw [recognised] at found
    cases found
  | some other =>
    rw [recognised] at found
    cases found
    unfold Format.ofSignature? at recognised
    exact List.find?_some (p := fun format : Format => format.accepts content) recognised

end Raster

/-! ### Warnings -/

namespace Identification

/-- Exactly one record, a warning that names the declared type and the decoded format. -/
def WarnsOf (mime : String) (format : Raster.Format) (logs : List LogRecord) : Prop :=
  ∃ record, logs = [record] ∧ record.severity = .warning ∧ record.source = .validation ∧
    record.message = "Declared MIME " ++ mime ++ " does not match decoded format " ++ format.name ∧
    record.extra = [("declared_mime", .string mime), ("decoded_format", .string format.name)]

/-- What identifying a file writes: a failure is not written about. -/
def written : Except Fault Identified → List LogRecord
  | .ok found => found.logs
  | .error _ => []

variable {type : ImageType} {format : Raster.Format}

theorem warnings_of_same (same : format.mime? = some type.mime) : warnings type format = [] := by
  rw [warnings, if_pos ((format.mime?_eq_some_iff type).mp same)]

theorem warnings_of_other (other : format.mime? ≠ some type.mime) :
    WarnsOf type.mime format (warnings type format) := by
  rw [warnings, if_neg (mt (format.mime?_eq_some_iff type).mpr other)]
  exact ⟨mismatch type format, rfl, rfl, rfl, rfl, rfl⟩

theorem warnings_eq_nil_iff (type : ImageType) (format : Raster.Format) :
    warnings type format = [] ↔ format.imageType? = some type := by
  unfold warnings
  split <;> simp_all

/-! ### Both supported declarations -/

variable {content : Bytes} {picture : Raster.Picture}

theorem identify_decoded (decoded : Raster.decode content = .ok picture) (type : ImageType) :
    identify content type.mime = .ok ⟨type, picture, warnings type picture.format⟩ := by
  rw [Pipeline.identify_supported, decoded]
  rfl

theorem identify_undecodable
    (garbled : Raster.decode content = .error (.failure Raster.undecodable)) (type : ImageType) :
    identify content type.mime = .error (.failure Raster.undecodable) := by
  rw [Pipeline.identify_supported, garbled]
  rfl

/-- What is identified was declared as a supported type, and it decodes. -/
theorem identify_eq_ok {mime : String} {found : Identified}
    (identified : identify content mime = .ok found) :
    ∃ type : ImageType, mime = type.mime ∧ Raster.decode content = .ok found.picture ∧
      found.logs = warnings type found.picture.format := by
  simp only [identify, bind_eq_ok_iff, mapError_eq_ok_iff, pure_eq_ok, Except.ok.injEq]
    at identified
  obtain ⟨type, supported, picture, decoded, rfl⟩ := identified
  refine ⟨type, ?_, decoded, rfl⟩
  unfold ImageType.ofMime at supported
  split at supported
  next other listed =>
    cases supported
    exact (ImageType.ofMime?_eq_some_iff mime type).mp listed
  next => cases supported

/-- A format agrees with one of two declarations at most. -/
theorem warned_once {first second : ImageType} (apart : first ≠ second)
    (format : Raster.Format) : warnings first format ≠ [] ∨ warnings second format ≠ [] := by
  by_cases agrees : format.imageType? = some first
  · right
    intro quiet
    have also := (warnings_eq_nil_iff second format).mp quiet
    exact apart (Option.some.inj (agrees.symm.trans also))
  · exact Or.inl (mt (warnings_eq_nil_iff first format).mp agrees)

end Identification

/-! ### The records of an upload -/

/-- Up to its address an upload is written about by receiving and by identifying only. -/
theorem Vault.draft_logs {policy : Policy} {stream : ChunkStream} {content : Bytes}
    (received : (stream.receive policy.sizeLimit).outcome = .ok content)
    (declared : Option String) (moment : Moment) :
    (draft policy stream declared moment).logs = (stream.receive policy.sizeLimit).logs ++
      Identification.written (Identification.identify content (MediaType.normalize declared)) := by
  simp only [draft, Outcome.logs_bind, Outcome.logs_after, Outcome.logs_ofFaulty,
    Outcome.result_after, Outcome.result_ofFaulty, received, mapError_ok, Except.toOption,
    Option.elim_some, List.append_nil, List.nil_append]
  cases Identification.identify content (MediaType.normalize declared) with
  | error fault => rfl
  | ok found =>
    -- Whether the address resolves decides if a draft is left, not what is written.
    simp only [Identification.written, Option.elim_some, Outcome.logs_pure]
    cases PublicAddress.resolve policy.serverUrl (imagesPath ++ "/" ++ Filename.ofType
        moment.token content.length found.type moment.nanoseconds) <;> simp

namespace Identification

/-- Whatever the file is, both supported declarations come to the same: the same picture, or
    the one failure of decoding; and every other declaration is refused without a look at the
    file. A picture is warned about exactly once if its format is not the declared one, and
    not at all if it is, so one of the two declarations is always warned about, and a file
    that passes without a warning starts with the signature of what it is declared as. These
    are all the records of an upload that come from identifying it. -/
theorem mismatch_is_never_silent (content : Bytes) :
    ((∃ picture, ∀ type : ImageType, ∃ found,
        identify content type.mime = .ok found ∧ found.picture = picture) ∨
      ∃ failure : Failure, failure.kind = .decode ∧
        ∀ type : ImageType, identify content type.mime = .error (.failure failure)) ∧
    (∀ mime, mime ≠ "image/jpeg" → mime ≠ "image/png" → ∃ failure : Failure,
      failure.kind = .unsupportedFormat ∧ identify content mime = .error (.failure failure)) ∧
    (∀ mime found, identify content mime = .ok found →
      Raster.decode content = .ok found.picture ∧
      (found.picture.format.mime? = some mime → found.logs = []) ∧
      (found.picture.format.mime? ≠ some mime →
        WarnsOf mime found.picture.format found.logs)) ∧
    (∀ jpeg png, identify content "image/jpeg" = .ok jpeg → identify content "image/png" = .ok png →
      jpeg.logs ≠ [] ∨ png.logs ≠ []) ∧
    (∀ type : ImageType, ∀ found, identify content type.mime = .ok found → found.logs = [] →
      type.signature <+: content) ∧
    (∀ policy (stream : ChunkStream) declared moment,
      (stream.receive policy.sizeLimit).outcome = .ok content →
      (Vault.draft policy stream declared moment).logs =
        (stream.receive policy.sizeLimit).logs ++
          written (identify content (MediaType.normalize declared))) := by
  refine ⟨?_, ?_, ?_, ?_, ?_, ?_⟩
  · rcases Raster.decode_cases content with ⟨picture, decoded⟩ | garbled
    · exact Or.inl ⟨picture, fun type => ⟨_, identify_decoded decoded type, rfl⟩⟩
    · exact Or.inr ⟨Raster.undecodable, rfl, identify_undecodable garbled⟩
  · intro mime noJpeg noPng
    exact ⟨ImageType.unsupported mime, rfl,
      Pipeline.identify_unsupported content mime noJpeg noPng⟩
  · intro mime found identified
    obtain ⟨type, rfl, decoded, logs⟩ := identify_eq_ok identified
    rw [logs]
    exact ⟨decoded, warnings_of_same, warnings_of_other⟩
  · intro jpeg png asJpeg asPng
    obtain ⟨first, named, decoded, jpegLogs⟩ := identify_eq_ok asJpeg
    obtain ⟨second, otherNamed, alsoDecoded, pngLogs⟩ := identify_eq_ok asPng
    cases @ImageType.mime_injective .jpeg _ named
    cases @ImageType.mime_injective .png _ otherNamed
    -- There is one picture, so its format is held against both declarations.
    have same : jpeg.picture = png.picture := Except.ok.inj (decoded.symm.trans alsoDecoded)
    rw [jpegLogs, pngLogs, same]
    exact warned_once (by decide) png.picture.format
  · intro type found identified quiet
    -- Without a warning the declared type is that of the format, which was told by its signature.
    obtain ⟨declared, named, decoded, logs⟩ := identify_eq_ok identified
    cases ImageType.mime_injective named
    rw [logs] at quiet
    have agrees := (warnings_eq_nil_iff type found.picture.format).mp quiet
    exact Raster.Format.signature_of_accepts agrees (Raster.decode_accepts decoded)
  · intro policy stream declared moment received
    exact Vault.draft_logs received declared moment

end Identification

end ImageVault
