import ImageVault.Proofs.Http.Gate
import ImageVault.Proofs.Upload.Reading

/-!
# Failures on the serving side reveal nothing

## Main result

`server_failures_reveal_nothing`: of a failure on the serving side the caller sees its code and
its status. Neither the configured address nor a generated name nor the state of the database
shows in the answer, as far as the failure is the same.

## Proof strategy

A request whose image endpoint ends with a failure is answered with the problem that the
failure is shown as (`Fails.result_eq`), and no other answer of an image endpoint has a status
of the serving side (`fails_of_serverSide`). A problem on the serving side is made from the kind
and the code (`ofFailure_of_serverSide`), and all failures of the pipeline have the code of
their kind (`Fails.isSpecific`). For the configured address every way in which an upload ends is
followed under two refused addresses at once (`Ends.readdress`).
-/

namespace ImageVault

/-! ### The status of a failure -/

namespace FailureKind

/-- The statuses by class, the more special classes first. -/
def statusByClass : List (FailureKind × Nat) :=
  [(payloadTooLarge, 413), (read, 400), (decode, 422), (unsupportedFormat, 415),
   (notFound, 404), (persistence, 503), (config, 500)]

/-- The first class that a failure belongs to decides its status; without one the serving side
    is to blame. An oversized payload is a failed read as well, so the order matters. -/
theorem status_eq_first (kind : FailureKind) :
    kind.status =
      ((statusByClass.find? fun entry => kind.refines.contains entry.1).map (·.2)).getD 500 := by
  cases kind <;> decide

end FailureKind

/-! ### Problems -/

namespace Problem

/-- Problems that differ in nothing but the message that they show. -/
def SameButMessage (first second : Problem) : Prop :=
  first.status = second.status ∧ first.headers = second.headers ∧
    ∃ error firstMessage secondMessage,
      first.detail = .object [("error", error), ("message", firstMessage)] ∧
      second.detail = .object [("error", error), ("message", secondMessage)]

variable {first second : Failure}

theorem ofFailure_sameButMessage (kind : first.kind = second.kind)
    (code : first.code = second.code) : SameButMessage (ofFailure first) (ofFailure second) := by
  refine ⟨congrArg FailureKind.status kind, rfl, .string first.code,
    .string (shownMessage first), .string (shownMessage second), rfl, ?_⟩
  rw [ofFailure, ← code]

theorem ofFailure_of_serverSide {failure : Failure} (serverSide : 500 ≤ failure.kind.status) :
    ofFailure failure =
      ⟨failure.kind.status,
        .object [("error", .string failure.code), ("message", .string concealed)], []⟩ := by
  rw [ofFailure, shownMessage, if_pos serverSide]

theorem ofFailure_eq_of_serverSide (kind : first.kind = second.kind)
    (code : first.code = second.code) (serverSide : 500 ≤ first.kind.status) :
    ofFailure first = ofFailure second := by
  rw [ofFailure_of_serverSide serverSide, ofFailure_of_serverSide (kind ▸ serverSide), kind, code]

end Problem

/-! ### Failures as the pipeline raises them -/

/-- A failure with the code of its kind, which is not the general one. -/
def Failure.IsSpecific (failure : Failure) : Prop :=
  failure.code = failure.kind.code ∧ failure.kind ≠ .media

theorem Failure.of_isSpecific {kind : FailureKind} (special : kind ≠ .media) (message : String)
    (details : Json.Members) : (Failure.of kind message details).IsSpecific :=
  ⟨rfl, special⟩

theorem PublicAddress.Refuses.kind_eq {serverUrl : Option String} {failure : Failure}
    (refuses : Refuses serverUrl failure) :
    failure.kind = .config ∧ failure.code = FailureKind.config.code := by
  cases refuses with
  | missing => exact ⟨rfl, rfl⟩
  | malformed => exact ⟨rfl, rfl⟩

theorem Store.download_isSpecific {store : Store} {filename : String} {failure : Failure}
    (failed : (store.download filename).result = .error (.failure failure)) :
    failure.IsSpecific := by
  unfold download at failed
  split at failed
  · cases failed
    exact Failure.of_isSpecific (by decide) _ _
  · split at failed
    · cases failed
    · cases failed
      exact Failure.of_isSpecific (by decide) _ _

theorem Store.info_isSpecific {store : Store} {id : Uuid} {failure : Failure}
    (failed : (store.info id).result = .error (.failure failure)) : failure.IsSpecific := by
  unfold Store.info at failed
  split at failed
  · cases failed
    exact Failure.of_isSpecific (by decide) _ _
  · split at failed
    · cases failed
    · cases failed
      exact Failure.of_isSpecific (by decide) _ _

namespace Pipeline

variable {store after : Store} {stream : ChunkStream} {declared : Option String} {owner : Uuid}
  {moment : Moment} {result : Except Fault StoredImage}

/-- Only an interruption could bring a failure with another code into the pipeline. -/
theorem Ends.isSpecific {policy : Policy} {failure : Failure}
    (unfailed : ∀ failure, stream.interruption ≠ some (.failure failure))
    (ends : Ends store policy stream declared owner moment after (.error (.failure failure))) :
    failure.IsSpecific := by
  cases ends with
  | unreceived refused =>
    -- A read that fails has no failure of its own, so the pipeline makes one of its kind.
    rcases ChunkStream.receive_eq_error unfailed refused with ⟨bound, -, rfl⟩ | ⟨_, rfl⟩
    · exact Failure.of_isSpecific (by decide) _ _
    · exact Failure.of_isSpecific (by decide) _ _
  | unsupported => exact Failure.of_isSpecific (by decide) _ _
  | undecodable => exact Failure.of_isSpecific (by decide) _ _
  | unaddressed _ refuses =>
    obtain ⟨kind, code⟩ := refuses.kind_eq
    exact ⟨by rw [kind, code], by simp [kind]⟩
  | unavailable => exact Failure.of_isSpecific (by decide) _ _
  | taken => exact Failure.of_isSpecific (by decide) _ _

/-! ### Two refused addresses -/

/-- Under another refused address an upload ends in the same way, the text of the failure
    that is due to the address apart. -/
theorem Ends.readdress {limit : Option Int} {first second : Option String}
    {firstFailure secondFailure : Failure}
    (firstRefuses : PublicAddress.Refuses first firstFailure)
    (secondRefuses : PublicAddress.Refuses second secondFailure)
    (ends : Ends store ⟨first, limit⟩ stream declared owner moment after result) :
    ∃ other, Ends store ⟨second, limit⟩ stream declared owner moment after other ∧
      (result = other ∨ ∃ one another, result = .error (.failure one) ∧
        other = .error (.failure another) ∧
        PublicAddress.Refuses first one ∧ PublicAddress.Refuses second another) := by
  -- No name has an address below a refused one.
  have unaddressed : ∀ type, addressOf ⟨first, limit⟩ stream moment type =
      .error (.failure firstFailure) := fun type =>
    (PublicAddress.resolve_eq_failure_iff _ _ _).mpr firstRefuses
  cases ends with
  | unreceived refused => exact ⟨_, .unreceived refused, Or.inl rfl⟩
  | unsupported received noJpeg noPng =>
    exact ⟨_, .unsupported received noJpeg noPng, Or.inl rfl⟩
  | undecodable received supported garbled =>
    exact ⟨_, .undecodable received supported garbled, Or.inl rfl⟩
  | unaddressed recognised refuses =>
    have recognised : Recognised ⟨second, limit⟩ stream declared _ _ :=
      ⟨recognised.received, recognised.supported, recognised.decoded⟩
    exact ⟨_, .unaddressed recognised secondRefuses,
      Or.inr ⟨_, _, rfl, rfl, refuses, secondRefuses⟩⟩
  | unreadableAddress _ addressed =>
    rw [unaddressed] at addressed
    cases addressed
  | unavailable _ addressed =>
    rw [unaddressed] at addressed
    cases addressed
  | taken _ addressed =>
    rw [unaddressed] at addressed
    cases addressed
  | stored _ addressed =>
    rw [unaddressed] at addressed
    cases addressed

end Pipeline

/-! ### Requests that fail -/

namespace Site

/-- The endpoint for images that a request leads to ends with a failure of the pipeline. -/
inductive Fails (site : Site) (vault : Vault) (request : Request) (moment : Moment) :
    Failure → Prop
  | upload {owner : Uuid} {part : Part} {failure : Failure} :
      request.method = "POST" →
      Endpoint.ofPath? request.path.toList = some .upload →
      identify request = .ok owner →
      uploadedPart request = .ok part →
      (vault.upload site.policy (site.stream part) part.contentType
        owner moment).2.result = .error (.failure failure) →
      Fails site vault request moment failure
  | info {text : List Char} {caller id : Uuid} {failure : Failure} :
      request.method = "GET" →
      Endpoint.ofPath? request.path.toList = some (.info text) →
      identify request = .ok caller →
      Uuid.ofStrict? text = some id →
      (vault.info id).result = .error (.failure failure) →
      Fails site vault request moment failure
  | download {filename : List Char} {caller : Uuid} {failure : Failure} :
      request.method = "GET" →
      Endpoint.ofPath? request.path.toList = some (.image filename) →
      identify request = .ok caller →
      (vault.download (String.ofList filename) moment).2.result = .error (.failure failure) →
      Fails site vault request moment failure

variable {site : Site} {vault : Vault} {request : Request} {moment : Moment} {failure : Failure}

/-- A request that fails is answered with the problem that the failure is shown as. -/
theorem Fails.result_eq (fails : Fails site vault request moment failure) (elapsed : Float) :
    (site.serve vault request moment elapsed).2.result =
      .ok (CrossOrigin.share site.origins request (.ofProblem (.ofFailure failure))) := by
  -- The way from the endpoint to the caller is the same for all three of them.
  have shared : ∀ {endpoint : Endpoint},
      Endpoint.ofPath? request.path.toList = some endpoint → request.method = endpoint.method →
      (site.run vault request moment endpoint).2.result =
        .ok (.ofProblem (.ofFailure failure)) →
      (site.serve vault request moment elapsed).2.result =
        .ok (CrossOrigin.share site.origins request (.ofProblem (.ofFailure failure))) := by
    intro endpoint routed allowed ran
    rw [serve, answer_routed site vault moment routed allowed]
    simp only [ran]
    rfl
  cases fails with
  | upload posted routed known chosen failed =>
    refine shared routed posted ?_
    simp only [run, asCaller, known, Site.upload, chosen]
    exact respond_failure failed created
  | info asked routed known read failed =>
    refine shared routed asked ?_
    simp only [run, asCaller, known, Site.info, read]
    exact respond_failure failed _
  | download asked routed known failed =>
    refine shared routed asked ?_
    simp only [run, asCaller, known, Site.download]
    exact respond_failure failed served

theorem Fails.isSpecific (fails : Fails site vault request moment failure) :
    failure.IsSpecific := by
  cases fails with
  | @upload owner part _ posted routed known chosen failed =>
    have ends := Pipeline.upload_ends vault site.policy
      (site.stream part) part.contentType owner moment
    rw [failed] at ends
    exact ends.isSpecific (Upload.interruption_ne_failure _ _ _)
  | info _ _ _ _ failed => exact Store.info_isSpecific failed
  | download _ _ _ failed =>
    rw [Vault.download_result] at failed
    exact Store.download_isSpecific failed

/-- Two failures of one kind on the serving side are shown alike, wherever they happen. -/
theorem Fails.problem_congr {other : Site} {otherVault : Vault} {otherMoment : Moment}
    {otherFailure : Failure} (fails : Fails site vault request moment failure)
    (otherFails : Fails other otherVault request otherMoment otherFailure)
    (kind : failure.kind = otherFailure.kind) (serverSide : 500 ≤ failure.kind.status) :
    Problem.ofFailure failure = Problem.ofFailure otherFailure := by
  have code : failure.code = otherFailure.code := by
    rw [fails.isSpecific.1, otherFails.isSpecific.1, kind]
  exact Problem.ofFailure_eq_of_serverSide kind code serverSide

/-- On the serving side the status tells the kind of a failure of the pipeline. -/
theorem kind_eq_of_status {another : Failure} (specific : failure.IsSpecific)
    (alsoSpecific : another.IsSpecific) (serverSide : 500 ≤ failure.kind.status)
    (same : failure.kind.status = another.kind.status) : failure.kind = another.kind := by
  obtain ⟨-, special⟩ := specific
  obtain ⟨-, alsoSpecial⟩ := alsoSpecific
  -- Only the general kind has the status of another one, and it is never raised.
  revert special alsoSpecial serverSide same
  cases failure.kind <;> cases another.kind <;> simp [FailureKind.status]

/-! ### No other answers on the serving side -/

theorem respond_cases {α : Type} {outcome : Outcome α} {present : α → Except Fault Response}
    {response : Response} (answered : (outcome.respond present).result = .ok response) :
    (∃ value, present value = .ok response) ∨
      ∃ failure, outcome.result = .error (.failure failure) ∧
        response = .ofProblem (.ofFailure failure) := by
  cases reached : outcome.result with
  | ok value =>
    rw [respond_ok reached] at answered
    exact Or.inl ⟨value, answered⟩
  | error fault =>
    cases fault with
    | failure failure =>
      rw [respond_failure reached] at answered
      exact Or.inr ⟨failure, rfl, (Except.ok.inj answered).symm⟩
    | _ => simp [Outcome.respond, reached] at answered

theorem created_status {row : StoredImage} {response : Response}
    (shown : created row = .ok response) : response.status = 201 := by
  unfold created at shown
  split at shown
  · cases shown
    rfl
  · cases shown

theorem served_status {row : StoredImage} {response : Response}
    (shown : served row = .ok response) : response.status = 200 := by
  unfold served at shown
  split at shown
  · cases shown
    rfl
  · cases shown

/-- A caller who is not known is not told of anything on the serving side. -/
theorem asCaller_known {run : Uuid → Vault × Outcome Response} {response : Response}
    (answered : (asCaller vault request run).2.result = .ok response)
    (serverSide : 500 ≤ response.status) :
    ∃ caller, identify request = .ok caller ∧ (run caller).2.result = .ok response := by
  unfold asCaller at answered
  split at answered
  next caller known => exact ⟨caller, known, answered⟩
  next problem refused =>
    cases answered
    -- Whatever is wrong with the header, the answer asks for authentication.
    rcases Identity.ofHeader_eq_error refused with rfl | rfl
    · exact absurd serverSide (show ¬500 ≤ 401 by decide)
    · exact absurd serverSide (show ¬500 ≤ 401 by decide)

/-- An image endpoint gives a status of the serving side only if it fails. -/
theorem fails_of_run {endpoint : Endpoint} {response : Response}
    (routed : Endpoint.ofPath? request.path.toList = some endpoint)
    (allowed : request.method = endpoint.method) (image : endpoint.isForImages = true)
    (answered : (site.run vault request moment endpoint).2.result = .ok response)
    (serverSide : 500 ≤ response.status) :
    ∃ failure, Fails site vault request moment failure ∧
      response = .ofProblem (.ofFailure failure) := by
  cases endpoint with
  | root => cases image
  | metrics => cases image
  | health => cases image
  | manual => cases image
  | upload =>
    obtain ⟨owner, known, answered⟩ := asCaller_known answered serverSide
    unfold upload at answered
    split at answered
    next defect _ =>
      cases answered
      exact absurd serverSide (show ¬500 ≤ 422 by decide)
    next part chosen =>
      rcases respond_cases answered with ⟨row, shown⟩ | ⟨failure, failed, rfl⟩
      · rw [created_status shown] at serverSide
        exact absurd serverSide (by decide)
      · exact ⟨failure, .upload allowed routed known chosen failed, rfl⟩
  | info text =>
    obtain ⟨caller, known, answered⟩ := asCaller_known answered serverSide
    unfold Site.info at answered
    split at answered
    next =>
      cases answered
      exact absurd serverSide (show ¬500 ≤ 422 by decide)
    next id read =>
      rcases respond_cases answered with ⟨info, shown⟩ | ⟨failure, failed, rfl⟩
      · cases shown
        exact absurd serverSide (show ¬500 ≤ 200 by decide)
      · exact ⟨failure, .info allowed routed known read failed, rfl⟩
  | image filename =>
    obtain ⟨caller, known, answered⟩ := asCaller_known answered serverSide
    rcases respond_cases answered with ⟨row, shown⟩ | ⟨failure, failed, rfl⟩
    · rw [served_status shown] at serverSide
      exact absurd serverSide (by decide)
    · exact ⟨failure, .download allowed routed known failed, rfl⟩

theorem fails_of_serverSide {endpoint : Endpoint} {response : Response}
    (routed : Endpoint.ofPath? request.path.toList = some endpoint)
    (allowed : request.method = endpoint.method) (image : endpoint.isForImages = true)
    {elapsed : Float} (answered : (site.serve vault request moment elapsed).2.result = .ok response)
    (serverSide : 500 ≤ response.status) :
    ∃ failure, Fails site vault request moment failure ∧
      response.status = failure.kind.status := by
  rw [serve, answer_routed site vault moment routed allowed] at answered
  obtain ⟨plain, ran, rfl⟩ := (map_eq_ok_iff _ _ _).mp answered
  obtain ⟨failure, fails, rfl⟩ := fails_of_run routed allowed image ran serverSide
  exact ⟨failure, fails, rfl⟩

/-! ### Sites without a proper address -/

theorem respond_congr {α : Type} {one other : Outcome α} (same : one.result = other.result)
    (present : α → Except Fault Response) :
    (one.respond present).result = (other.respond present).result := by
  unfold Outcome.respond
  rw [same]
  split <;> rfl

/-- An upload to a site with a refused address is answered alike whatever the address is. -/
theorem upload_readdress {first second : Option String} {firstFailure secondFailure : Failure}
    (firstRefuses : PublicAddress.Refuses first firstFailure)
    (secondRefuses : PublicAddress.Refuses second secondFailure) (site : Site) (vault : Vault)
    (request : Request) (moment : Moment) (owner : Uuid) :
    (({ site with serverUrl := first } : Site).upload vault request moment owner).2.result =
      (({ site with serverUrl := second } : Site).upload vault request moment owner).2.result := by
  unfold upload
  cases uploadedPart request with
  | error defect => rfl
  | ok part =>
    simp only [policy, stream]
    have ends := Pipeline.upload_ends vault ⟨first, site.sizeLimit⟩
      (Upload.stream site.room site.chunkSize part.content) part.contentType owner moment
    obtain ⟨result, otherEnds, same | ⟨one, another, shown, otherShown, refuses, otherRefuses⟩⟩ :=
      ends.readdress firstRefuses secondRefuses
    · exact respond_congr (same.trans otherEnds.eq_upload.2.symm) created
    · -- The two failures differ, but not in what is shown of them.
      obtain ⟨kind, code⟩ := refuses.kind_eq
      obtain ⟨otherKind, otherCode⟩ := otherRefuses.kind_eq
      have alike : Problem.ofFailure one = Problem.ofFailure another := by
        apply Problem.ofFailure_eq_of_serverSide
        · rw [kind, otherKind]
        · rw [code, otherCode]
        · rw [kind]
          decide
      rw [respond_failure shown created,
        respond_failure (otherEnds.eq_upload.2.trans otherShown) created, alike]

theorem serve_readdress {first second : Option String} {firstFailure secondFailure : Failure}
    (firstRefuses : PublicAddress.Refuses first firstFailure)
    (secondRefuses : PublicAddress.Refuses second secondFailure) (site : Site) (vault : Vault)
    (request : Request) (moment : Moment) (elapsed : Float) :
    (({ site with serverUrl := first } : Site).serve vault request moment elapsed).2.result =
      (({ site with serverUrl := second } : Site).serve vault request moment
        elapsed).2.result := by
  have dispatched := dispatch_rel (fun one other => one.2.result = other.2.result)
    (fun _ => rfl) { site with serverUrl := first } { site with serverUrl := second } rfl
    (upload_readdress firstRefuses secondRefuses site vault request moment)
  simp only [serve, answer]
  split
  · rfl
  · simp only [dispatched]

/-- Failures of one kind and code are shown alike, their messages apart if the caller is to
    blame; details are never shown. So two runs of a request that fail alike on the serving
    side get the same response, whatever the sites, the vaults and the moments are; sites add
    to it which origins they admit. An image endpoint has no other answers with a status of the
    serving side, and of two answers with one such status neither tells more than the other.
    Sites whose addresses are refused answer every request alike, whatever the addresses are. -/
theorem server_failures_reveal_nothing :
    (∀ kind : FailureKind, kind.status =
      ((FailureKind.statusByClass.find? fun entry => kind.refines.contains entry.1).map
        (·.2)).getD 500) ∧
    (∀ first second : Failure, first.kind = second.kind → first.code = second.code →
      (500 ≤ first.kind.status → Problem.ofFailure first = Problem.ofFailure second) ∧
      Problem.SameButMessage (.ofFailure first) (.ofFailure second)) ∧
    (∀ (failure : Failure) details,
      Problem.ofFailure { failure with details } = Problem.ofFailure failure) ∧
    (∀ first second vault other request moment later failure another elapsed delayed,
      Fails first vault request moment failure → Fails second other request later another →
      failure.kind = another.kind → 500 ≤ failure.kind.status →
      ∃ response, response.status = failure.kind.status ∧
        (first.serve vault request moment elapsed).2.result =
          .ok (CrossOrigin.share first.origins request response) ∧
        (second.serve other request later delayed).2.result =
          .ok (CrossOrigin.share second.origins request response)) ∧
    (∀ first second vault other request moment later elapsed delayed endpoint one another,
      Endpoint.ofPath? request.path.toList = some endpoint →
      request.method = endpoint.method → endpoint.isForImages = true →
      (serve first vault request moment elapsed).2.result = .ok one →
      (serve second other request later delayed).2.result = .ok another →
      500 ≤ one.status → one.status = another.status →
      (∃ response, one = CrossOrigin.share first.origins request response ∧
        another = CrossOrigin.share second.origins request response) ∧
      ∃ failure, Fails first vault request moment failure) ∧
    (∀ first second path failure another,
      PublicAddress.resolve first path = .error (.failure failure) →
      PublicAddress.resolve second path = .error (.failure another) →
      ∀ (site : Site) vault request moment elapsed,
        (({ site with serverUrl := first } : Site).serve vault request moment elapsed).2.result =
          (({ site with serverUrl := second } : Site).serve vault request moment
            elapsed).2.result) := by
  refine ⟨FailureKind.status_eq_first, ?_, fun failure details => rfl, ?_, ?_, ?_⟩
  · intro first second kind code
    exact ⟨Problem.ofFailure_eq_of_serverSide kind code,
      Problem.ofFailure_sameButMessage kind code⟩
  · intro first second vault other request moment later failure another elapsed delayed fails
      otherFails kind serverSide
    refine ⟨.ofProblem (.ofFailure failure), rfl, fails.result_eq elapsed, ?_⟩
    rw [fails.problem_congr otherFails kind serverSide]
    exact otherFails.result_eq delayed
  · intro first second vault other request moment later elapsed delayed endpoint one another
      routed allowed image answered otherAnswered serverSide same
    obtain ⟨failure, fails, status⟩ :=
      fails_of_serverSide routed allowed image answered serverSide
    obtain ⟨otherFailure, otherFails, otherStatus⟩ :=
      fails_of_serverSide routed allowed image otherAnswered (same ▸ serverSide)
    rw [status] at serverSide
    have kind : failure.kind = otherFailure.kind :=
      kind_eq_of_status fails.isSpecific otherFails.isSpecific serverSide
        (status.symm.trans (same.trans otherStatus))
    refine ⟨⟨.ofProblem (.ofFailure failure), ?_, ?_⟩, failure, fails⟩
    · exact Except.ok.inj (answered.symm.trans (fails.result_eq elapsed))
    · rw [fails.problem_congr otherFails kind serverSide]
      exact Except.ok.inj (otherAnswered.symm.trans (otherFails.result_eq delayed))
  · intro first second path failure another refused otherRefused
    rw [PublicAddress.resolve_eq_failure_iff] at refused otherRefused
    exact serve_readdress refused otherRefused

/-- A request for a picture by a caller who is known. -/
def pictureRequest : Request :=
  ⟨"GET", "/api/v1/images/a.png", [("X-User-Id", "00000000-0000-0000-0000-000000000001")], []⟩

/-- A database that is out of reach and one without tables give the same answer. -/
theorem lost_databases_look_alike :
    let site : Site := ⟨none, none, 1, "test", ["*"], 64⟩
    let moment : Moment := ⟨⟨0⟩, ⟨0⟩, 0, .whole 0, .whole 0⟩
    ∃ response, response.status = 503 ∧
      (site.serve ⟨.empty .unreachable, .zero⟩ pictureRequest moment 0.0).2.result =
        .ok response ∧
      (site.serve ⟨.empty .withoutTables, .zero⟩ pictureRequest moment 0.0).2.result =
        .ok response := by
  intro site moment
  -- The database is asked only once the path and the caller are known.
  have routed : Endpoint.ofPath? pictureRequest.path.toList =
      some (.image "a.png".toList) := by decide +kernel
  obtain ⟨caller, known⟩ : ∃ caller, identify pictureRequest = .ok caller := by
    have accepted : (identify pictureRequest).toOption.isSome = true := by decide +kernel
    cases known : identify pictureRequest with
    | ok caller => exact ⟨caller, rfl⟩
    | error problem => simp [known, Except.toOption] at accepted
  have fails : ∀ condition, condition ≠ .ready →
      ∃ failure, failure.kind = .persistence ∧
        Fails site ⟨.empty condition, .zero⟩ pictureRequest moment failure := by
    intro condition lost
    cases condition with
    | ready => exact absurd rfl lost
    | _ => exact ⟨_, rfl, .download rfl routed known rfl⟩
  obtain ⟨failure, kind, unreachable⟩ := fails .unreachable (by decide)
  obtain ⟨another, otherKind, tableless⟩ := fails .withoutTables (by decide)
  obtain ⟨-, -, -, alike, -⟩ := server_failures_reveal_nothing
  obtain ⟨response, status, answered⟩ := alike site site _ _ pictureRequest moment moment
    failure another 0.0 0.0 unreachable tableless (kind.trans otherKind.symm)
    (by rw [kind]; decide)
  exact ⟨CrossOrigin.share site.origins pictureRequest response,
    status.trans (by rw [kind]; rfl), answered⟩

end Site

end ImageVault
