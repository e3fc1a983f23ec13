import ImageVault.Proofs.Http.Download

/-!
# Callers without an identity get nowhere

## Main result

`unidentified_are_refused`: whatever an image endpoint is asked for, without a caller who is
known the answer asks for authentication. Nothing is stored, counted for the pipeline or
recorded, and the answer is the same whatever is in the vault.

## Proof strategy

A request that is routed to an image endpoint is answered by the endpoint
(`answer_routed`), and the endpoint looks at the identity first (`run_of_refused`). So the
answer is made from the request alone, and two runs cannot differ in it.
-/

namespace ImageVault

/-- The endpoints that store, describe and deliver images. -/
def Endpoint.isForImages : Endpoint → Bool
  | .upload => true
  | .info _ => true
  | .image _ => true
  | _ => false

/-- What the pipeline counts is counted alike in both. -/
structure Metrics.SamePipeline (before after : Metrics) : Prop where
  uploads : after.uploads = before.uploads
  failures : after.failures = before.failures
  sizes : after.sizes = before.sizes
  downloads : after.downloads = before.downloads

namespace Site

variable {site : Site} {request : Request} {moment : Moment} {endpoint : Endpoint}

/-! ### Where the identity is looked at -/

theorem run_of_refused (vault : Vault) {problem : Problem} (image : endpoint.isForImages = true)
    (refused : identify request = .error problem) :
    site.run vault request moment endpoint = (vault, .value (.ofProblem problem)) := by
  cases endpoint with
  | upload => simp only [run, asCaller, refused]
  | info id => simp only [run, asCaller, refused]
  | image filename => simp only [run, asCaller, refused]
  | root => cases image
  | metrics => cases image
  | health => cases image
  | manual => cases image

/-- Counting an answer leaves alone what the pipeline counts. -/
theorem countAnswer_samePipeline (request : Request) (elapsed : Float) (metrics : Metrics)
    (result : Except Fault Response) :
    metrics.SamePipeline (countAnswer request elapsed metrics result) := by
  unfold countAnswer
  split
  · exact ⟨rfl, rfl, rfl, rfl⟩
  · split
    · exact ⟨rfl, rfl, rfl, rfl⟩
    · exact ⟨rfl, rfl, rfl, rfl⟩

/-! ### The refusal -/

/-- The answer to a request for which there is no caller. -/
def refusal (origins : List String) (request : Request) (problem : Problem) : Response :=
  CrossOrigin.share origins request (.ofProblem problem)

theorem refusal_asks (origins : List String) (request : Request) {problem : Problem}
    (known : problem = Identity.missing ∨ problem = Identity.invalid) :
    (refusal origins request problem).status = 401 ∧
      (refusal origins request problem).headers.filter (·.1 = "www-authenticate") =
        [("www-authenticate", "Bearer")] := by
  have lowered : "WWW-Authenticate".toLower = "www-authenticate" := by decide +kernel
  have asks : ∀ detail, (Response.ofProblem (.unauthorized detail)).status = 401 ∧
      (Response.ofProblem (.unauthorized detail)).headers.filter (·.1 = "www-authenticate") =
        [("www-authenticate", "Bearer")] := by
    intro detail
    refine ⟨rfl, ?_⟩
    simp [Response.ofProblem, Response.detail, Response.json, Response.withHeaders,
      Problem.unauthorized, lowered]
  rw [refusal, share_headers origins request _ (by decide)]
  rcases known with rfl | rfl
  · exact asks _
  · exact asks _

theorem serve_of_refused (vault : Vault) {problem : Problem}
    (routed : Endpoint.ofPath? request.path.toList = some endpoint)
    (allowed : request.method = endpoint.method) (image : endpoint.isForImages = true)
    (refused : identify request = .error problem) (elapsed : Float) :
    site.serve vault request moment elapsed =
      ({ vault with
          metrics := countAnswer request elapsed vault.metrics (.ok (refusal site.origins request problem)) },
        .value (refusal site.origins request problem)) := by
  have answered := answer_routed site vault moment routed allowed
  rw [run_of_refused vault image refused] at answered
  rw [serve, answered]
  rfl

/-- An image endpoint refuses a request without a known caller before it looks at anything
    else: the answer asks for authentication, no row, count or record is left behind, and
    the vault has no influence on the answer. -/
theorem unidentified_are_refused (site : Site) (vault : Vault) (request : Request)
    (moment : Moment) (elapsed : Float) (endpoint : Endpoint)
    (routed : Endpoint.ofPath? request.path.toList = some endpoint)
    (allowed : request.method = endpoint.method) (image : endpoint.isForImages = true)
    (unidentified : request.Unidentified) :
    let served := site.serve vault request moment elapsed
    served.1.store = vault.store ∧ vault.metrics.SamePipeline served.1.metrics ∧
    served.2.logs = [] ∧
    ∃ response, served.2.result = .ok response ∧ response.status = 401 ∧
      response.headers.filter (·.1 = "www-authenticate") = [("www-authenticate", "Bearer")] ∧
      ∀ other : Vault, (site.serve other request moment elapsed).2.result = .ok response := by
  obtain ⟨problem, refused, known⟩ := identify_refuses unidentified
  obtain ⟨status, headers⟩ := refusal_asks site.origins request known
  have always : ∀ other : Vault, (site.serve other request moment elapsed).2 =
      .value (refusal site.origins request problem) := by
    intro other
    rw [serve_of_refused other routed allowed image refused elapsed]
  intro served
  refine ⟨?_, ?_, ?_, refusal site.origins request problem, ?_, status, headers, ?_⟩
  · simp only [served, serve_of_refused vault routed allowed image refused elapsed]
  · simp only [served, serve_of_refused vault routed allowed image refused elapsed]
    exact countAnswer_samePipeline request elapsed vault.metrics _
  · simp only [served, always]
    rfl
  · simp only [served, always]
    rfl
  · intro other
    rw [always other]
    rfl

/-- Somebody unknown asks for the description of an image that cannot exist. -/
def intrusion : Request :=
  { method := "GET"
    path := "/api/v1/images/nothing/info"
    headers := [("X-User-Id", "nobody")]
    parts := [] }

/-- Neither the unreachable database nor the impossible identifier shows. -/
theorem intrusion_is_refused :
    ∃ response, (serve ⟨none, none, 0, "test", ["*"], 64⟩ (.empty .unreachable) intrusion
        ⟨⟨0⟩, ⟨0⟩, 0, .whole 0, .whole 0⟩ 0.0).2.result = .ok response ∧
      response.status = 401 := by
  have unidentified : intrusion.Unidentified := by
    intro text found
    have header : intrusion.header? "x-user-id" = some "nobody" := by decide +kernel
    obtain rfl := Option.some.inj (header.symm.trans found)
    exact Or.inr (by decide +kernel)
  obtain ⟨-, -, -, response, answered, status, -⟩ :=
    unidentified_are_refused ⟨none, none, 0, "test", ["*"], 64⟩ (.empty .unreachable) intrusion
      ⟨⟨0⟩, ⟨0⟩, 0, .whole 0, .whole 0⟩ 0.0 (.info "nothing".toList) (by decide) rfl rfl
      unidentified
  exact ⟨response, answered, status⟩

end Site

end ImageVault
