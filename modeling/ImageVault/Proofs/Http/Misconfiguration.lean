import ImageVault.Proofs.Http.Concealment
import ImageVault.Proofs.PublicAddress.Shape
import ImageVault.Proofs.Session.Accounting

/-!
# Sites whose address is at fault

## Main result

`misconfiguration_reported_iff_readable`: an upload for which only the address of the site is
at fault is counted, recorded and answered as a failure of the configuration exactly if that
address can be cut into parts.

## Proof strategy

The base is cut into parts before it is judged, and what cutting it raises is no failure of
the pipeline. Such a fault passes the vault, which accounts for failures only, and then the
site, which shows problems for failures only.
-/

namespace ImageVault

/-! ### Readable addresses -/

namespace PublicAddress

/-- The configured address can be cut into parts, whatever these are. -/
def IsReadable (serverUrl : Option String) : Prop :=
  ∃ parts, Url.split (stripped serverUrl) = .ok parts

variable {serverUrl : Option String} {type : ImageType} {filename : String}

theorem readable_of_plain (plain : ∀ c ∈ stripped serverUrl,
    c ≠ '[' ∧ c ≠ ']' ∧ Url.foldsToDelimiter c = false) : IsReadable serverUrl :=
  Url.exists_split_iff.mpr
    (Url.accepted_of_plain fun c member => plain c (Url.mem_authorityOf member))

theorem not_readable_iff : ¬IsReadable serverUrl ↔
    ∃ defect, Url.split (stripped serverUrl) = .error defect := by
  unfold IsReadable
  cases Url.split (stripped serverUrl) with
  | error defect => simp
  | ok parts => simp

/-- A refused base is readable: it is missing, or its parts are not those of a web address. -/
theorem Refuses.readable {failure : Failure} (refuses : Refuses serverUrl failure) :
    IsReadable serverUrl := by
  cases refuses with
  | missing missing =>
    rw [IsReadable, stripped, missing]
    exact ⟨_, rfl⟩
  | malformed _ cut _ => exact ⟨_, cut⟩

/-- Under a readable base an image has a web address, or its base is refused. -/
theorem resolves_or_refuses (form : Filename.HasForm type filename)
    (readable : IsReadable serverUrl) :
    (∃ url parts, resolve serverUrl (Vault.imagesPath ++ "/" ++ filename) = .ok url ∧
        IsWeb url.toList parts) ∨
      ∃ failure, Refuses serverUrl failure := by
  have plain := form.imagePath_plain
  have written := imagePath_written filename
  cases resolved : resolve serverUrl (Vault.imagesPath ++ "/" ++ filename) with
  | ok url =>
    obtain ⟨parts, -, -, web⟩ := exists_parts plain written resolved
    exact Or.inl ⟨url, _, rfl, web⟩
  | error fault =>
    rcases resolve_error_cases resolved with ⟨failure, rfl⟩ | ⟨defect, rfl⟩
    · exact Or.inr ⟨failure, (resolve_eq_failure_iff _ _ _).mp resolved⟩
    · have uncut := (resolve_eq_address_iff plain written defect).mp resolved
      exact absurd readable (not_readable_iff.mpr ⟨defect, uncut⟩)

end PublicAddress

/-! ### Uploads under an address at fault -/

namespace EventLog.UploadEvents

variable {owner : Uuid} {moment : Moment} {records : List LogRecord}

theorem of_failure {failure : Failure}
    (events : UploadEvents owner moment (.error (.failure failure)) records) :
    ∃ duration, roundDuration moment.duration = .ok duration ∧
      records = [failedRecord owner failure duration] := by
  cases events with
  | failed rounding => exact ⟨_, rounding, rfl⟩
  | unforeseen other => exact absurd rfl (other failure)

theorem of_address {defect : Url.Defect}
    (events : UploadEvents owner moment (.error (.address defect)) records) : records = [] := by
  cases events
  rfl

end EventLog.UploadEvents

namespace Vault

/-- The upload ended with a failure of the configuration. The vault has counted it and left
    its record, and stored nothing. -/
structure Reports (vault : Vault) (owner : Uuid) (moment : Moment)
    (ended : Vault × Outcome StoredImage) (failure : Failure) : Prop where
  kind : failure.kind = .config
  code : failure.code = "CONFIG_ERROR"
  failed : ended.2.result = .error (.failure failure)
  kept : ended.1.store = vault.store
  counted : ended.1.metrics = vault.metrics.uploadFailed "CONFIG_ERROR"
  recorded : ∃ duration, EventLog.roundDuration moment.duration = .ok duration ∧
    ended.2.events = [EventLog.failedRecord owner failure duration]

/-- The upload ended with a fault of which the vault takes no notice. -/
structure Overlooks (vault : Vault) (ended : Vault × Outcome StoredImage)
    (defect : Url.Defect) : Prop where
  escaped : ended.2.result = .error (.address defect)
  kept : ended.1 = vault
  unrecorded : ended.2.events = []

variable {policy : Policy} {stream : ChunkStream} {declared : Option String} {type : ImageType}
  {picture : Raster.Picture} (vault : Vault) (owner : Uuid) (moment : Moment)

theorem upload_reports (recognised : Pipeline.Recognised policy stream declared type picture)
    {failure : Failure} (refuses : PublicAddress.Refuses policy.serverUrl failure) :
    vault.Reports owner moment (vault.upload policy stream declared owner moment) failure := by
  obtain ⟨kind, code⟩ := refuses.kind_eq
  obtain ⟨kept, failed⟩ := Pipeline.Ends.eq_upload
    (.unaddressed recognised refuses : Pipeline.Ends vault.store _ _ _ owner moment _ _)
  refine ⟨kind, code, failed, kept, ?_, ?_⟩
  · have counted := vault.upload_metrics policy stream declared owner moment
    simpa [Metrics.book, Exchange.uploaded?, Exchange.failed?, Exchange.downloaded?, failed,
      Except.toOption, code, FailureKind.code] using counted
  · have events := vault.upload_events policy stream declared owner moment
    rw [failed] at events
    exact events.of_failure

theorem upload_overlooks (recognised : Pipeline.Recognised policy stream declared type picture)
    {defect : Url.Defect}
    (uncut : Url.split (PublicAddress.stripped policy.serverUrl) = .error defect) :
    vault.Overlooks (vault.upload policy stream declared owner moment) defect := by
  have form := Pipeline.filenameOf_form stream moment type
  have unreadable : Pipeline.addressOf policy stream moment type = .error (.address defect) :=
    (PublicAddress.resolve_eq_address_iff form.imagePath_plain
      (PublicAddress.imagePath_written _) defect).mpr uncut
  obtain ⟨kept, escaped⟩ := Pipeline.Ends.eq_upload
    (.unreadableAddress recognised unreadable :
      Pipeline.Ends vault.store _ _ _ owner moment _ _)
  have counted : (vault.upload policy stream declared owner moment).1.metrics =
      vault.metrics := by
    have counted := vault.upload_metrics policy stream declared owner moment
    simpa [Metrics.book, Exchange.uploaded?, Exchange.failed?, Exchange.downloaded?, escaped,
      Except.toOption] using counted
  refine ⟨escaped, congrArg₂ Vault.mk kept counted, ?_⟩
  have events := vault.upload_events policy stream declared owner moment
  rw [escaped] at events
  exact events.of_address

end Vault

/-! ### Requests under an address at fault -/

namespace Site

/-- The answer to an upload that fails because of the configuration. -/
def misconfigured (origins : List String) (request : Request) : Response :=
  CrossOrigin.share origins request (.ofProblem
    ⟨500, .object [("error", .string "CONFIG_ERROR"), ("message", .string Problem.concealed)],
      []⟩)

/-- The request uploads a part that is received and recognised. -/
structure Uploads (site : Site) (request : Request) (owner : Uuid) (part : Part)
    (type : ImageType) (picture : Raster.Picture) : Prop where
  posted : request.method = "POST"
  routed : Endpoint.ofPath? request.path.toList = some .upload
  known : identify request = .ok owner
  chosen : uploadedPart request = .ok part
  recognised : Pipeline.Recognised site.policy (site.stream part)
    part.contentType type picture

variable {site : Site} {request : Request} {owner : Uuid} {part : Part} {type : ImageType}
  {picture : Raster.Picture} (vault : Vault) (moment : Moment) (elapsed : Float)

theorem serve_misconfigured (uploads : Uploads site request owner part type picture)
    {failure : Failure} (refuses : PublicAddress.Refuses site.serverUrl failure) :
    (site.serve vault request moment elapsed).2.result =
      .ok (misconfigured site.origins request) := by
  have reports := vault.upload_reports owner moment uploads.recognised refuses
  have fails : Fails site vault request moment failure :=
    .upload uploads.posted uploads.routed uploads.known uploads.chosen reports.failed
  have shown : Problem.ofFailure failure = ⟨500, .object [("error", .string "CONFIG_ERROR"),
      ("message", .string Problem.concealed)], []⟩ := by
    rw [Problem.ofFailure_of_serverSide (by rw [reports.kind]; decide), reports.kind,
      reports.code]
    rfl
  rw [fails.result_eq elapsed, shown, misconfigured]

/-- What the vault overlooks leaves the site without an answer. -/
theorem serve_overlooks (uploads : Uploads site request owner part type picture)
    {defect : Url.Defect}
    (uncut : Url.split (PublicAddress.stripped site.serverUrl) = .error defect) :
    (site.serve vault request moment elapsed).2.result = .error (.address defect) := by
  have overlooks := vault.upload_overlooks owner moment uploads.recognised uncut
  have ran : (site.run vault request moment .upload).2.result = .error (.address defect) := by
    simp only [run, asCaller, uploads.known, Site.upload, uploads.chosen, Outcome.respond,
      overlooks.escaped]
  rw [serve, answer_routed site vault moment uploads.routed uploads.posted]
  simp only [ran]
  rfl

end Site

/-! ### Reports -/

namespace PublicAddress

variable {serverUrl : Option String} {type : ImageType} {filename : String}

/-- The parts of a readable base decide whether an image has an address. -/
theorem resolve_readable_iff (form : Filename.HasForm type filename) :
    (IsReadable serverUrl ↔
      (∃ url parts, resolve serverUrl (Vault.imagesPath ++ "/" ++ filename) = .ok url ∧
        IsWeb url.toList parts) ∨
      ∃ failure, resolve serverUrl (Vault.imagesPath ++ "/" ++ filename) =
          .error (.failure failure) ∧
        failure.kind = .config ∧ failure.code = "CONFIG_ERROR") := by
  constructor
  · intro readable
    rcases resolves_or_refuses form readable with resolved | ⟨failure, refuses⟩
    · exact Or.inl resolved
    · exact Or.inr ⟨failure, (resolve_eq_failure_iff _ _ _).mpr refuses, refuses.kind_eq⟩
  · rintro (⟨url, -, resolved, -⟩ | ⟨failure, refused, -⟩)
    · obtain ⟨parts, web⟩ := isWeb_of_resolve resolved
      exact ⟨parts, web.cut⟩
    · exact ((resolve_eq_failure_iff _ _ _).mp refused).readable

theorem refuses_of_unaddressed {policy : Policy} {stream : ChunkStream} {moment : Moment}
    (unaddressed : ∀ url, Pipeline.addressOf policy stream moment type ≠ .ok url)
    (readable : IsReadable policy.serverUrl) : ∃ failure, Refuses policy.serverUrl failure := by
  have form := Pipeline.filenameOf_form stream moment type
  rcases resolves_or_refuses form readable with ⟨url, -, resolved, -⟩ | refuses
  · exact absurd resolved (unaddressed url)
  · exact refuses

end PublicAddress

namespace Site

open PublicAddress

/-- The address of an image is a web address or refused as a failure of the configuration
    exactly if the base can be cut into parts, as it can be without brackets and without
    characters that stand for a mark. An upload for which only the base is at fault is counted,
    recorded and answered as such a failure just then. Under any other base the defect escapes:
    the upload is neither counted nor recorded, and the request is left without an answer. -/
theorem misconfiguration_reported_iff_readable (serverUrl : Option String) :
    (∀ type filename, Filename.HasForm type filename →
      (IsReadable serverUrl ↔
        (∃ url parts, resolve serverUrl (Vault.imagesPath ++ "/" ++ filename) = .ok url ∧
          IsWeb url.toList parts) ∨
        ∃ failure, resolve serverUrl (Vault.imagesPath ++ "/" ++ filename) =
            .error (.failure failure) ∧
          failure.kind = .config ∧ failure.code = "CONFIG_ERROR") ∧
      ∀ defect, resolve serverUrl (Vault.imagesPath ++ "/" ++ filename) =
          .error (.address defect) ↔
        Url.split (stripped serverUrl) = .error defect) ∧
    ((∀ c ∈ stripped serverUrl, c ≠ '[' ∧ c ≠ ']' ∧ Url.foldsToDelimiter c = false) →
      IsReadable serverUrl) ∧
    (∀ limit stream declared type picture (vault : Vault) owner moment,
      Pipeline.Recognised ⟨serverUrl, limit⟩ stream declared type picture →
      (∀ url, Pipeline.addressOf ⟨serverUrl, limit⟩ stream moment type ≠ .ok url) →
      (IsReadable serverUrl ↔ ∃ failure, vault.Reports owner moment
        (vault.upload ⟨serverUrl, limit⟩ stream declared owner moment) failure) ∧
      ∀ defect, Url.split (stripped serverUrl) = .error defect →
        vault.Overlooks (vault.upload ⟨serverUrl, limit⟩ stream declared owner moment) defect) ∧
    (∀ site request owner part type picture vault moment elapsed, site.serverUrl = serverUrl →
      Uploads site request owner part type picture →
      (∀ url, Pipeline.addressOf site.policy (site.stream part) moment
        type ≠ .ok url) →
      (IsReadable serverUrl ↔
        (site.serve vault request moment elapsed).2.result =
          .ok (misconfigured site.origins request)) ∧
      ∀ defect, Url.split (stripped serverUrl) = .error defect →
        (site.serve vault request moment elapsed).2.result = .error (.address defect)) := by
  refine ⟨fun type filename form => ⟨resolve_readable_iff form,
    resolve_eq_address_iff form.imagePath_plain (imagePath_written filename)⟩,
    readable_of_plain, ?_, ?_⟩
  · intro limit stream declared type picture vault owner moment recognised unaddressed
    have overlooks : ∀ defect, Url.split (stripped serverUrl) = .error defect →
        vault.Overlooks (vault.upload ⟨serverUrl, limit⟩ stream declared owner moment) defect :=
      fun defect uncut => vault.upload_overlooks owner moment recognised uncut
    refine ⟨⟨fun readable => ?_, ?_⟩, overlooks⟩
    · obtain ⟨failure, refuses⟩ := refuses_of_unaddressed unaddressed readable
      exact ⟨failure, vault.upload_reports owner moment recognised refuses⟩
    · rintro ⟨failure, reports⟩
      by_contra unreadable
      obtain ⟨defect, uncut⟩ := not_readable_iff.mp unreadable
      have failed := reports.failed
      rw [(overlooks defect uncut).escaped] at failed
      cases failed
  · rintro site request owner part type picture vault moment elapsed rfl uploads unaddressed
    have overlooks : ∀ defect, Url.split (stripped site.serverUrl) = .error defect →
        (site.serve vault request moment elapsed).2.result = .error (.address defect) :=
      fun defect uncut => serve_overlooks vault moment elapsed uploads uncut
    refine ⟨⟨fun readable => ?_, fun answered => ?_⟩, overlooks⟩
    · obtain ⟨failure, refuses⟩ := refuses_of_unaddressed unaddressed readable
      exact serve_misconfigured vault moment elapsed uploads refuses
    · by_contra unreadable
      obtain ⟨defect, uncut⟩ := not_readable_iff.mp unreadable
      rw [overlooks defect uncut] at answered
      cases answered

/-- A base with the scheme of another service. -/
theorem foreign_scheme_is_reported :
    ∃ failure, (Vault.empty .ready).Reports ⟨1⟩ ⟨⟨2⟩, ⟨3⟩, 0, .whole 0, .whole 0⟩
      ((Vault.empty .ready).upload ⟨some "ftp://media.example.com", some 8⟩
        (Upload.stream 64 3 Raster.smallestBitmap) (some "image/png") ⟨1⟩
        ⟨⟨2⟩, ⟨3⟩, 0, .whole 0, .whole 0⟩) failure := by
  obtain ⟨picture, decoded⟩ := Raster.smallestBitmap_decodes
  have recognised : Pipeline.Recognised ⟨some "ftp://media.example.com", some 8⟩
      (Upload.stream 64 3 Raster.smallestBitmap) (some "image/png") .png picture :=
    ⟨rfl, by decide +kernel, decoded⟩
  have cut : Url.split (stripped (some "ftp://media.example.com")) =
      .ok ⟨"ftp".toList, "media.example.com".toList, [], [], []⟩ := rfl
  refine ((misconfiguration_reported_iff_readable (some "ftp://media.example.com")).2.2.1 _ _ _ _
    _ _ _ _ recognised fun url resolved => ?_).1.mp ⟨_, cut⟩
  obtain ⟨parts, web⟩ := isWeb_of_resolve resolved
  have scheme := web.scheme
  rw [← Except.ok.inj (cut.symm.trans web.cut)] at scheme
  exact absurd scheme (by decide)

/-- A bracket that is not closed is no failure of the configuration. -/
theorem open_bracket_escapes :
    Filename.HasForm .png "0123456789abcdef.png" ∧
      resolve (some "http://[") (Vault.imagesPath ++ "/" ++ "0123456789abcdef.png") =
        .error (.address .brackets) ∧
      (∀ url, resolve (some "http://[") (Vault.imagesPath ++ "/" ++ "0123456789abcdef.png") ≠
        .ok url) ∧
      ∀ failure,
        resolve (some "http://[") (Vault.imagesPath ++ "/" ++ "0123456789abcdef.png") ≠
          .error (.failure failure) := by
  have escaped : resolve (some "http://[")
      (Vault.imagesPath ++ "/" ++ "0123456789abcdef.png") = .error (.address .brackets) := rfl
  rw [escaped]
  refine ⟨Filename.sample_form, rfl, ?_, ?_⟩
  · rintro url ⟨⟩
  · rintro failure ⟨⟩

end Site

end ImageVault
