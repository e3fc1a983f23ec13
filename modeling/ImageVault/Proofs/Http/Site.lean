import ImageVault.Proofs.Identity
import ImageVault.Proofs.Pipeline
import ImageVault.Proofs.Resource
import ImageVault.Proofs.Vault

/-!
# What a request leaves behind

## Main result

`serve_reports_commits`: a request adds a row exactly if it is answered with the status of a
created image, and then the answer shows this row.

## Proof strategy

`Serves` tells the two ways in which a request can end. It is established for the upload
endpoint from the rules of the pipeline and carried outwards through routing, through the
headers for other origins and through counting, none of which looks at the store.
-/

namespace ImageVault

/-- No failure is shown as a created image. -/
theorem FailureKind.status_ne_created (kind : FailureKind) : kind.status ≠ 201 := by
  cases kind <;> decide

namespace Site

/-! ### The two ways in which a request ends -/

/-- How a request is served: the store after it, and the response or the fault. -/
inductive Serves (site : Site) (store : Store) (request : Request) (moment : Moment) :
    Store → Except Fault Response → Prop
  | created {owner : Uuid} {part : Part} {after : Store} {row : StoredImage}
      {response : Response} :
      request.method = "POST" →
      Endpoint.ofPath? request.path.toList = some .upload →
      identify request = .ok owner →
      uploadedPart request = .ok part →
      Pipeline.Ends store site.policy (site.stream part)
        part.contentType owner moment after (.ok row) →
      response.status = 201 →
      response.body = .json (.object row.attributes) →
      Serves site store request moment after (.ok response)
  | untouched {result : Except Fault Response} :
      (∀ response, result = .ok response → response.status ≠ 201) →
      Serves site store request moment store result

variable {site : Site} {vault : Vault} {request : Request} {moment : Moment}

theorem Serves.answered {store : Store} {response : Response} (other : response.status ≠ 201) :
    Serves site store request moment store (.ok response) := by
  refine .untouched fun given same => ?_
  cases same
  exact other

/-! ### Uploading -/

/-- The resource of an uploaded image is never refused: the sides come from the decoder. -/
theorem created_eq_ok {row : StoredImage} (high : 0 < row.height) (wide : 0 < row.width) :
    created row = .ok (.json 201 (.object row.attributes)) := by
  unfold created
  rw [StoredImage.validate_attributes high wide]
  simp only [Schema.Checked.toExcept, StoredImage.resource_attributes]

theorem respond_ok {α : Type} {outcome : Outcome α} {value : α}
    (reached : outcome.result = .ok value) (present : α → Except Fault Response) :
    (outcome.respond present).result = present value := by
  simp only [Outcome.respond, reached]

theorem respond_failure {α : Type} {outcome : Outcome α} {failure : Failure}
    (stopped : outcome.result = .error (.failure failure))
    (present : α → Except Fault Response) :
    (outcome.respond present).result = .ok (.ofProblem (.ofFailure failure)) := by
  simp only [Outcome.respond, stopped]

/-- Without a value there is a problem with the status of a failure, or no answer at all. -/
theorem respond_error {α : Type} {outcome : Outcome α} {fault : Fault}
    (stopped : outcome.result = .error fault) (present : α → Except Fault Response)
    (response : Response) (answered : (outcome.respond present).result = .ok response) :
    response.status ≠ 201 := by
  cases fault with
  | failure failure =>
    simp only [Outcome.respond, stopped, Except.ok.injEq] at answered
    subst response
    exact failure.kind.status_ne_created
  | _ => simp [Outcome.respond, stopped] at answered

theorem upload_serves {owner : Uuid} (posted : request.method = "POST")
    (routed : Endpoint.ofPath? request.path.toList = some .upload)
    (known : identify request = .ok owner) :
    Serves site vault.store request moment (site.upload vault request moment owner).1.store
      (site.upload vault request moment owner).2.result := by
  unfold upload
  split
  next defect _ => exact .answered (show 422 ≠ 201 by decide)
  next part chosen =>
    have ends := Pipeline.upload_ends vault site.policy
      (site.stream part) part.contentType owner moment
    cases ended : (vault.upload site.policy (site.stream part)
        part.contentType owner moment).2.result with
    | ok row =>
      -- The row is in the table by now, so its resource must not be refused.
      rw [ended] at ends
      obtain ⟨high, wide⟩ := ends.sides_positive
      have shown := (respond_ok ended created).trans (created_eq_ok high wide)
      simp only [shown]
      exact .created posted routed known chosen ends rfl rfl
    | error fault =>
      rw [ended] at ends
      simp only [ends.of_error]
      exact .untouched (respond_error ended created)

/-! ### Everything else -/

theorem download_status (vault : Vault) (filename : String) (moment : Moment)
    (response : Response)
    (answered : (download vault filename moment).2.result = .ok response) :
    response.status ≠ 201 := by
  cases found : (vault.download filename moment).2.result with
  | error fault => exact respond_error found served response answered
  | ok row =>
    have shown := (respond_ok found served).symm.trans answered
    unfold served at shown
    split at shown
    · cases shown
      exact (show 200 ≠ 201 by decide)
    · cases shown

theorem info_status (vault : Vault) (id : List Char) (response : Response)
    (answered : (info vault id).result = .ok response) : response.status ≠ 201 := by
  unfold info at answered
  split at answered
  · cases answered
    decide
  next id _ =>
    cases found : (vault.info id).result with
    | error fault => exact respond_error found _ response answered
    | ok info =>
      have shown := (respond_ok found _).symm.trans answered
      cases shown
      exact (show 200 ≠ 201 by decide)

theorem manual_status (page : Manual) : (manual page).status = 200 := by
  unfold manual
  split
  · rfl
  · rfl

/-- An image endpoint serves a request if it does so for every caller. -/
theorem asCaller_serves {run : Uuid → Vault × Outcome Response}
    (serves : ∀ owner, identify request = .ok owner →
      Serves site vault.store request moment (run owner).1.store (run owner).2.result) :
    Serves site vault.store request moment (asCaller vault request run).1.store
      (asCaller vault request run).2.result := by
  unfold asCaller
  split
  next owner known => exact serves owner known
  next problem refused =>
    refine .untouched fun response answered => ?_
    cases answered
    -- Only two problems come up, and both ask for authentication.
    rcases Identity.ofHeader_eq_error refused with rfl | rfl
    · exact (show 401 ≠ 201 by decide)
    · exact (show 401 ≠ 201 by decide)

theorem run_serves (endpoint : Endpoint)
    (routed : Endpoint.ofPath? request.path.toList = some endpoint)
    (allowed : endpoint.methods.contains request.method = true) :
    Serves site vault.store request moment (site.run vault request moment endpoint).1.store
      (site.run vault request moment endpoint).2.result := by
  cases endpoint with
  | root => exact .answered (show 200 ≠ 201 by decide)
  | metrics => exact .answered (show 200 ≠ 201 by decide)
  | manual page =>
    refine .answered ?_
    rw [manual_status]
    decide
  | health =>
    refine .answered ?_
    unfold health
    split
    · exact (show 503 ≠ 201 by decide)
    · exact (show 200 ≠ 201 by decide)
  | upload =>
    have posted : request.method = "POST" := by
      simpa [Endpoint.methods, Endpoint.method] using allowed
    exact asCaller_serves fun owner known => upload_serves posted routed known
  | info id =>
    exact asCaller_serves fun _ _ => .untouched (info_status vault id)
  | image filename =>
    refine asCaller_serves fun owner _ => ?_
    simp only [download, Vault.download_store]
    exact .untouched (download_status vault (String.ofList filename) moment)

theorem dispatch_serves (site : Site) (vault : Vault) (request : Request) (moment : Moment) :
    Serves site vault.store request moment (site.dispatch vault request moment).1.store
      (site.dispatch vault request moment).2.result := by
  unfold dispatch
  split
  next endpoint routed =>
    split
    next allowed => exact run_serves endpoint routed allowed
    next forbidden => exact .answered (show 405 ≠ 201 by decide)
  next unrouted =>
    split
    · exact .answered (show 307 ≠ 201 by decide)
    · exact .answered (show 404 ≠ 201 by decide)

/-! ### Around the endpoints -/

theorem methods_contains {endpoint : Endpoint} (allowed : request.method = endpoint.method) :
    endpoint.methods.contains request.method = true := by
  cases endpoint <;> simp [Endpoint.methods, allowed, Endpoint.method]

/-- No endpoint is asked in the way in which leave is asked for beforehand. -/
theorem not_isPreflight {endpoint : Endpoint} (allowed : request.method = endpoint.method) :
    CrossOrigin.isPreflight request = false := by
  have other : endpoint.method ≠ "OPTIONS" := by
    cases endpoint <;> simp [Endpoint.method]
  simp [CrossOrigin.isPreflight, allowed, other]

/-- A request that is routed is answered by its endpoint, wherever it comes from. -/
theorem answer_routed (site : Site) (vault : Vault) (moment : Moment) {endpoint : Endpoint}
    (routed : Endpoint.ofPath? request.path.toList = some endpoint)
    (allowed : request.method = endpoint.method) :
    site.answer vault request moment =
      ((site.run vault request moment endpoint).1,
        { (site.run vault request moment endpoint).2 with
          result := (site.run vault request moment endpoint).2.result.map
            (CrossOrigin.share site.origins request) }) := by
  simp only [answer, not_isPreflight allowed, dispatch, routed, methods_contains allowed,
    if_true, Bool.false_eq_true, if_false]

/-- Headers for other origins change neither the status nor what is shown. -/
theorem Serves.share {after : Store} {result : Except Fault Response} {store : Store}
    (serves : Serves site store request moment after result) :
    Serves site store request moment after (result.map (CrossOrigin.share site.origins request)) := by
  cases serves with
  | created posted routed known chosen ends status body =>
    exact .created posted routed known chosen ends status body
  | untouched other =>
    refine .untouched fun response answered => ?_
    cases result with
    | error fault => cases answered
    | ok plain =>
      cases answered
      exact other plain rfl

theorem preflight_status (origins : List String) (request : Request) :
    (CrossOrigin.preflight origins request).status ≠ 201 := by
  unfold CrossOrigin.preflight
  split
  · exact (show 200 ≠ 201 by decide)
  · exact (show 400 ≠ 201 by decide)

/-- Every request is served in one of the two ways. -/
theorem serve_serves (site : Site) (vault : Vault) (request : Request) (moment : Moment)
    (elapsed : Float) :
    Serves site vault.store request moment (site.serve vault request moment elapsed).1.store
      (site.serve vault request moment elapsed).2.result := by
  change Serves site vault.store request moment (site.answer vault request moment).1.store
    (site.answer vault request moment).2.result
  unfold answer
  -- A request that only asks for leave never reaches an endpoint.
  split
  next asked => exact .answered (preflight_status site.origins request)
  next plain => exact (dispatch_serves site vault request moment).share

theorem Serves.step {store after : Store} {result : Except Fault Response}
    (serves : Serves site store request moment after result) : store.Step after := by
  cases serves with
  | created _ _ _ _ ends =>
    obtain ⟨-, -, -, -, -, admitted, rfl⟩ := ends.of_ok
    exact .added _ admitted
  | untouched => exact .same

/-- What is reported as created was uploaded from a part of the request. -/
theorem Serves.of_created {store after : Store} {response : Response}
    (serves : Serves site store request moment after (.ok response))
    (status : response.status = 201) :
    ∃ owner part row, uploadedPart request = .ok part ∧
      Pipeline.Ends store site.policy (site.stream part)
        part.contentType owner moment after (.ok row) ∧
      response.body = .json (.object row.attributes) := by
  cases serves with
  | created _ _ _ chosen ends _ body => exact ⟨_, _, _, chosen, ends, body⟩
  | untouched other => exact absurd status (other response rfl)

/-! ### Two sites -/

/-- Sites that show the same environment and answer uploads alike answer all requests alike. -/
theorem dispatch_rel (rel : Vault × Outcome Response → Vault × Outcome Response → Prop)
    (refl : ∀ answered, rel answered answered) (first second : Site)
    (shown : first.environment = second.environment)
    (uploads : ∀ owner, rel (first.upload vault request moment owner)
      (second.upload vault request moment owner)) :
    rel (first.dispatch vault request moment) (second.dispatch vault request moment) := by
  have runs : ∀ endpoint, rel (first.run vault request moment endpoint)
      (second.run vault request moment endpoint) := by
    intro endpoint
    cases endpoint with
    | upload =>
      simp only [run, asCaller]
      cases identify request with
      | ok owner => exact uploads owner
      | error problem => exact refl _
    | root =>
      simp only [run, welcome, shown]
      exact refl _
    | _ => exact refl _
  unfold dispatch
  cases Endpoint.ofPath? request.path.toList with
  | none => exact refl _
  | some endpoint =>
    dsimp only
    split
    · exact runs endpoint
    · exact refl _

/-! ### Reports -/

/-- A request adds a row exactly if it is a post to the upload endpoint that is answered with
    the status of a created image. The answer then shows the row, owned by the caller; any
    other end leaves the store as it was. -/
theorem serve_reports_commits (site : Site) (vault : Vault) (request : Request)
    (moment : Moment) (elapsed : Float) :
    let after := (site.serve vault request moment elapsed).1.store
    let result := (site.serve vault request moment elapsed).2.result
    ((∃ row, after.rows = vault.store.rows ++ [row]) ↔
      request.method = "POST" ∧ Endpoint.ofPath? request.path.toList = some .upload ∧
        ∃ response, result = .ok response ∧ response.status = 201) ∧
    ((∃ row response, after = vault.store.add row ∧ identify request = .ok row.ownerId ∧
        result = .ok response ∧ response.status = 201 ∧
        response.body = .json (.object
          [("id", .string row.id.text), ("owner_id", .string row.ownerId.text),
           ("height", .int row.height), ("width", .int row.width), ("mime", .string row.mime),
           ("filename", .string row.filename), ("url", .string row.url),
           ("size", .int row.size)])) ∨
      after = vault.store ∧ ∀ response, result = .ok response → response.status ≠ 201) := by
  intro after result
  have serves : Serves site vault.store request moment after result :=
    serve_serves site vault request moment elapsed
  generalize after = after, result = result at serves ⊢
  -- One row more and the status of a created image go together in both ways of ending.
  cases serves with
  | @created owner part after row response posted routed known chosen ends status body =>
    obtain ⟨-, -, -, -, -, -, rfl⟩ := ends.of_ok
    constructor
    · exact ⟨fun _ => ⟨posted, routed, response, rfl, status⟩, fun _ => ⟨row, rfl⟩⟩
    · refine Or.inl ⟨row, response, rfl, ?_, rfl, status, body⟩
      rw [ends.owner_eq]
      exact known
  | untouched other =>
    constructor
    · constructor
      · -- A table is never as long as itself with one row more.
        rintro ⟨row, longer⟩
        have lengths := congrArg List.length longer
        simp at lengths
      · rintro ⟨-, -, response, answered, status⟩
        exact absurd status (other response answered)
    · exact Or.inr ⟨rfl, other⟩

end Site

end ImageVault
