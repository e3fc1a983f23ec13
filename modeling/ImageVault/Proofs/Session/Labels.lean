import Mathlib.Data.List.Dedup
import Mathlib.Data.List.Perm.Subperm
import ImageVault.Proofs.Http.Labels
import ImageVault.Proofs.Session.Traffic

/-!
# Labels of a session that follows up what it is told

## Main result

`generated_names_are_no_labels`: no name and no identifier that the vault generates stands in a
label, so clients that ask only for what they were told see three paths labelled, however many
images there are.

## Proof strategy

What is told comes from rows that the pipeline made: its names are names for labels, too
(`HasForm.isName`), and the text of an identifier, in letters of either case, is an identifier
for them (`isId_of_toLower`). So each request that follows up has one of three labels
(`FollowsUp.route_mem`). A session is followed through with all replies so far, and the labels
that are counted are those of its requests.
-/

namespace ImageVault

/-! ### Generated names -/

namespace Filename

variable {type : ImageType} {filename : String}

/-- What names are generated as is what labels take for a name. -/
theorem HasForm.isName (form : HasForm type filename) : PathLabel.IsName filename.toList := by
  obtain ⟨digits, sixteen, lower, rfl⟩ := form
  have digit : "0123456789abcdef".toList.all PathLabel.isLowerHexDigit = true := by decide
  refine ⟨digits, '.' :: type.extension.toList, ?_,
    fun c member => List.all_eq_true.mp digit c (lower c member), ?_, String.toList_ofList⟩
  · rintro rfl
    cases sixteen
  · cases type with
    | jpeg => exact Or.inl rfl
    | png => exact Or.inr rfl

theorem isName_of_make {token : Uuid} {size : Int} {mime : String} {nanoseconds : Int}
    (made : make token size mime nanoseconds = .ok filename) :
    PathLabel.IsName filename.toList := by
  unfold make ImageType.ofMime at made
  split at made
  next type _ =>
    have same : ofType token size type nanoseconds = filename := Except.ok.inj made
    rw [← same]
    exact (ofType_form token size type nanoseconds).isName
  next => cases made

end Filename

/-! ### What a client is told -/

/-- The filename and the identifier that a reply shows of an image that was created. -/
def Reply.created? : Reply → Option (String × String)
  | .answered outcome =>
    match outcome.result with
    | .ok ⟨201, _, .json shown⟩ => do
      let filename ← (shown.member? "filename").bind Json.text?
      let id ← (shown.member? "id").bind Json.text?
      return (filename, id)
    | _ => none
  | _ => none

/-- Where requests lead that follow up these replies: to uploading, to an image under the name
that was shown for it, and to its description under the identifier that was shown for it, in
letters of either case. -/
inductive Endpoint.FollowsUp (replies : List Reply) : Endpoint → Prop
  | upload : FollowsUp replies .upload
  | image {reply : Reply} {filename id : String} : reply ∈ replies →
      reply.created? = some (filename, id) → FollowsUp replies (.image filename.toList)
  | info {reply : Reply} {filename id spelled : String} : reply ∈ replies →
      reply.created? = some (filename, id) → spelled.toLower = id →
      FollowsUp replies (.info spelled.toList)

/-- A session in which each counted request follows up the replies before it. -/
def Vault.FollowsUp (vault : Vault) (replies : List Reply) : List Operation → Prop
  | [] => True
  | operation :: rest =>
    (∀ request, operation.counted? = some request → ∃ endpoint,
      Endpoint.ofPath? request.path.toList = some endpoint ∧ endpoint.FollowsUp replies) ∧
    (vault.perform operation).1.FollowsUp (replies ++ [(vault.perform operation).2]) rest

/-- The labels that the paths of images have. -/
def PathLabel.ofImages : List String :=
  ["/api/v1/images", "/api/v1/images/\x7bfilename\x7d", "/api/v1/images/\x7bid\x7d/info"]

/-- All that is shown in this reply was generated. -/
def Reply.IsGenerated (reply : Reply) : Prop :=
  ∀ filename id, reply.created? = some (filename, id) →
    PathLabel.IsName filename.toList ∧ ∃ uuid : Uuid, id = uuid.text

namespace Vault

theorem perform_isGenerated (vault : Vault) (operation : Operation) :
    (vault.perform operation).2.IsGenerated := by
  intro filename id told
  cases operation with
  | request site request moment elapsed =>
    have serves := Site.serve_serves site vault request moment elapsed
    change (Reply.answered (site.serve vault request moment elapsed).2).created? = _ at told
    simp only [Reply.created?] at told
    split at told
    next headers shown answered =>
      rw [answered] at serves
      -- The status tells that the row was made by the pipeline.
      obtain ⟨owner, part, row, -, ends, body⟩ := serves.of_created rfl
      obtain rfl := Body.json.inj body
      have named : (Json.object row.attributes).member? "filename" = some (.string row.filename) :=
        rfl
      have identified : (Json.object row.attributes).member? "id" = some (.string row.id.text) :=
        rfl
      obtain ⟨rfl, rfl⟩ : row.filename = filename ∧ row.id.text = id := by
        simpa [named, identified, Json.text?] using told
      obtain ⟨type, picture, url, -, rfl, -, -⟩ := ends.of_ok
      exact ⟨(Pipeline.filenameOf_form _ moment type).isName, _, rfl⟩
    next => cases told
  | _ => cases told

end Vault

/-! ### Labels -/

namespace PathLabel

theorem ofPath_image {filename : String} (isName : IsName filename.toList) :
    ofPath ("/api/v1/images/" ++ filename) = "/api/v1/images/\x7bfilename\x7d" := by
  rw [ofPath, String.toList_append]
  change String.ofList (ofChars (Endpoint.imagePath filename.toList)) = _
  rw [ofChars_imagePath isName.slash_not_mem, ofSegment_of_isName isName]
  rfl

theorem ofPath_info {spelled : String} (isId : IsId spelled.toList) :
    ofPath ("/api/v1/images/" ++ spelled ++ "/info") = "/api/v1/images/\x7bid\x7d/info" := by
  rw [ofPath, String.toList_append, String.toList_append]
  change String.ofList (ofChars (Endpoint.infoPath spelled.toList)) = _
  rw [ofChars_infoPath isId.slash_not_mem, (Uuid.Spelling.grouped isId).ofSegment_eq]
  rfl

end PathLabel

/-- Whoever follows up what was generated is counted under one of three labels. -/
theorem Endpoint.FollowsUp.route_mem {replies : List Reply} {endpoint : Endpoint}
    {request : Request} (follows : endpoint.FollowsUp replies)
    (generated : ∀ reply ∈ replies, reply.IsGenerated)
    (routed : Endpoint.ofPath? request.path.toList = some endpoint) :
    (Site.route request).path ∈ PathLabel.ofImages := by
  cases follows with
  | upload =>
    rw [Site.route_upload routed]
    decide
  | image told shown =>
    obtain ⟨isName, -⟩ := generated _ told _ _ shown
    rw [Site.route_name isName routed]
    decide
  | info told shown same =>
    obtain ⟨-, uuid, rfl⟩ := generated _ told _ _ shown
    have isId := Uuid.isId_of_toLower same
    rw [Site.route_spelling (.grouped isId) routed]
    decide

namespace Vault

/-- Each counted request of such a session has one of the labels of images. -/
theorem FollowsUp.route_mem {vault : Vault} {replies : List Reply} {operations : List Operation}
    (follows : vault.FollowsUp replies operations)
    (generated : ∀ reply ∈ replies, reply.IsGenerated) :
    ∀ request ∈ operations.filterMap Operation.counted?,
      (Site.route request).path ∈ PathLabel.ofImages := by
  -- What the client was told grows with each operation, and all of it stays generated.
  induction operations generalizing vault replies with
  | nil => simp
  | cons operation rest ih =>
    obtain ⟨first, later⟩ := follows
    intro request member
    rw [List.filterMap_cons] at member
    have others := ih later fun reply told => by
      rcases List.mem_append.mp told with old | new
      · exact generated reply old
      · rw [List.mem_singleton.mp new]
        exact vault.perform_isGenerated operation
    cases counted : operation.counted? with
    | none =>
      rw [counted] at member
      exact others request member
    | some given =>
      rw [counted] at member
      rcases List.mem_cons.mp member with rfl | member
      · obtain ⟨endpoint, routed, endpointFollows⟩ := first request counted
        exact endpointFollows.route_mem generated routed
      · exact others request member

/-- A generated name and a canonical identifier, in letters of either case, never stand in the
    label of the path under which its image is found or described. So a session whose counted
    requests upload images, and find and describe them as its replies show, has at most the
    three labels of images, whatever the store held when it began. -/
theorem generated_names_are_no_labels :
    (∀ token size mime nanoseconds filename,
      Filename.make token size mime nanoseconds = .ok filename →
      PathLabel.ofPath ("/api/v1/images/" ++ filename) =
        "/api/v1/images/\x7bfilename\x7d") ∧
    (∀ (id : Uuid) (spelled : String), spelled.toLower = id.text →
      PathLabel.ofPath ("/api/v1/images/" ++ spelled ++ "/info") =
        "/api/v1/images/\x7bid\x7d/info") ∧
    (∀ (store : Store) (operations : List Operation),
      let start : Vault := ⟨store, .zero⟩
      start.FollowsUp [] operations →
      let paths := (start.run operations).1.metrics.requests.entries.map (·.1.route.path)
      paths ⊆ PathLabel.ofImages ∧ paths.dedup.length ≤ 3) := by
  refine ⟨fun token size mime nanoseconds filename made =>
    PathLabel.ofPath_image (Filename.isName_of_make made),
    fun id spelled same => PathLabel.ofPath_info (Uuid.isId_of_toLower same), ?_⟩
  intro store operations start follows paths
  have measures : (start.run operations).1.metrics.Measures (start.visits operations) :=
    run_measures start operations Metrics.measures_zero
  have asked := start.visits_requests operations
  -- A label that is counted is the label of a request that was made.
  have within : paths ⊆ PathLabel.ofImages := by
    intro path member
    obtain ⟨entry, counted, rfl⟩ := List.mem_map.mp member
    obtain ⟨visit, visited, same⟩ := measures.label_visited (List.mem_map_of_mem counted)
    rw [same]
    apply follows.route_mem (by simp)
    rw [← asked]
    exact List.mem_map_of_mem visited
  refine ⟨within, ?_⟩
  have distinct : paths.dedup.Subperm PathLabel.ofImages :=
    List.subperm_of_subset (List.nodup_dedup paths) fun path member =>
      within (List.dedup_subset paths member)
  exact distinct.length_le

theorem followsUp_request {vault : Vault} {replies : List Reply} {site : Site}
    {request : Request} {moment : Moment} {elapsed : Float} {rest : List Operation}
    {endpoint : Endpoint} (routed : Endpoint.ofPath? request.path.toList = some endpoint)
    (follows : endpoint.FollowsUp replies)
    (later : (vault.perform (.request site request moment elapsed)).1.FollowsUp
      (replies ++ [(vault.perform (.request site request moment elapsed)).2]) rest) :
    vault.FollowsUp replies (.request site request moment elapsed :: rest) := by
  refine ⟨fun given counted => ?_, later⟩
  have same : request = given := by
    simp only [Operation.counted?, Option.ite_none_right_eq_some] at counted
    exact Option.some.inj counted.2
  rw [← same]
  exact ⟨endpoint, routed, follows⟩

/-- A request of the caller whom the samples know. -/
def sampleVisit (method path : String) (parts : List Part) : Operation :=
  .request ⟨some "http://localhost", some 8, 3, "test", ["*"], 64⟩
    { method, path, headers := [("X-User-Id", "00000000-0000-0000-0000-000000000001")], parts }
    ⟨⟨0xAB⟩, ⟨3⟩, 0, .whole 0, .whole 0⟩ 0.0

/-- The smallest bitmap is uploaded, found by its name, and described by its identifier, which
is spelled in capitals. -/
def sampleVisits : List Operation :=
  [sampleVisit "POST" "/api/v1/images" [⟨"file", some "dot.pbm", some "image/png",
      [0x50, 0x34, 0x0A, 0x31, 0x20, 0x31, 0x0A, 0x80]⟩],
    sampleVisit "GET" "/api/v1/images/395d8f12bf561391.png" [],
    sampleVisit "GET" "/api/v1/images/00000000-0000-0000-0000-0000000000AB/info" []]

/-- The three labels are all in use. -/
theorem sample_visits_labelled :
    let start : Vault := ⟨.empty .ready, .zero⟩
    let paths := (start.run sampleVisits).1.metrics.requests.entries.map (·.1.route.path)
    start.FollowsUp [] sampleVisits ∧ paths = PathLabel.ofImages ∧ paths.dedup.length ≤ 3 := by
  intro start paths
  have shown : (start.perform (sampleVisit "POST" "/api/v1/images" [⟨"file", some "dot.pbm",
      some "image/png", [0x50, 0x34, 0x0A, 0x31, 0x20, 0x31, 0x0A, 0x80]⟩])).2.created? =
      some ("395d8f12bf561391.png", "00000000-0000-0000-0000-0000000000ab") := by decide +kernel
  have capitals : "00000000-0000-0000-0000-0000000000AB".toLower =
      "00000000-0000-0000-0000-0000000000ab" := by
    change String.map Char.toLower _ = _
    rw [← String.toList_inj, String.toList_map]
    decide
  have follows : start.FollowsUp [] sampleVisits := by
    refine followsUp_request (show Endpoint.ofPath? _ = some .upload by decide) .upload ?_
    refine followsUp_request
      (show Endpoint.ofPath? _ = some (.image "395d8f12bf561391.png".toList) by decide)
      (.image List.mem_cons_self shown) ?_
    refine followsUp_request
      (show Endpoint.ofPath? _ =
        some (.info "00000000-0000-0000-0000-0000000000AB".toList) by decide)
      (.info List.mem_cons_self shown capitals) ?_
    exact trivial
  exact ⟨follows, by decide +kernel,
    (generated_names_are_no_labels.2.2 (.empty .ready) sampleVisits follows).2⟩

end Vault

end ImageVault
