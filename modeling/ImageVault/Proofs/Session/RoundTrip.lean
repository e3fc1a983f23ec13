import ImageVault.Proofs.Http.Download
import ImageVault.Proofs.Session.Rows

/-!
# What is stored comes back

## Main result

`stored_comes_back`: a row that was once handed out is found ever after, by its filename and
by its identifier; what was uploaded by request is delivered by request; and nothing is
missed but what is not there.

## Proof strategy

A reply hands out only rows that are in the table by then (`perform_returns`), and the table
only grows. In a sound table a key finds its row, so it suffices to know that the row is in
the table at the end.
-/

namespace ImageVault

/-- The reply hands out this row. -/
def Reply.Returns (row : StoredImage) : Reply → Prop
  | .stored outcome => outcome.result = .ok row
  | _ => False

/-- The reply is this response. -/
def Reply.Answers (response : Response) : Reply → Prop
  | .answered outcome => outcome.result = .ok response
  | _ => False

namespace Vault

/-- The row is found whole by its filename, and described by its identifier. -/
structure Retrieves (vault : Vault) (row : StoredImage) : Prop where
  loaded : (vault.store.download row.filename).result = .ok row
  downloaded : ∀ moment, (vault.download row.filename moment).2.result = .ok row
  described : (vault.info row.id).result =
    .ok { height := row.height, width := row.width, mime := row.mime,
          filename := row.filename, size := row.size, ownerId := row.ownerId }

/-- Whoever is known and asks for the row gets the uploaded bytes under its name, declared
    as they were when they were uploaded. -/
def Delivers (vault : Vault) (row : StoredImage) (part : Part) : Prop :=
  ∀ (site : Site) (request : Request) (caller : Uuid) (moment : Moment) (elapsed : Float),
    request.method = "GET" → request.path = "/api/v1/images/" ++ row.filename →
    Site.identify request = .ok caller →
    ∃ response, (site.serve vault request moment elapsed).2.result = .ok response ∧
      response.status = 200 ∧ response.body = .content part.content ∧
      response.headers.filter (·.1 = "content-type") =
        [("content-type", MediaType.normalize part.contentType)] ∧
      response.headers.filter (·.1 = "content-disposition") =
        [("content-disposition", "inline; filename=\"" ++ row.filename ++ "\"")]

/-- What is not found is what no row has: filenames are compared character by character. -/
structure MissesOnlyAbsent (vault : Vault) : Prop where
  loads : ∀ filename, (vault.store.download filename).FailsWith .notFound ↔
    ∀ row ∈ vault.store.rows, row.filename ≠ filename
  downloads : ∀ filename moment, (vault.download filename moment).2.FailsWith .notFound ↔
    ∀ row ∈ vault.store.rows, row.filename ≠ filename
  describes : ∀ id, (vault.info id).FailsWith .notFound ↔ ∀ row ∈ vault.store.rows, row.id ≠ id

variable {vault : Vault} {row : StoredImage}

/-! ### Rows that are in the table -/

/-- A row is handed out only once it is in the table of a ready database. -/
theorem perform_returns {operation : Operation}
    (returned : (vault.perform operation).2.Returns row) :
    (vault.perform operation).1.store.condition = .ready ∧
      row ∈ (vault.perform operation).1.store.rows := by
  have of_commits : ∀ {after : Store}, vault.store.Commits after (.ok row) →
      after.condition = .ready ∧ row ∈ after.rows := by
    intro after commits
    obtain ⟨admitted, rfl⟩ := commits.of_ok
    exact admitted.joined
  -- Saves and uploads add what they return, loads and downloads have found it.
  cases operation with
  | save id owner image =>
    have commits := Store.save_commits vault.store id owner image
    have saved : (vault.store.save id owner image).2.result = .ok row := returned
    rw [saved] at commits
    exact of_commits commits
  | load filename => exact Store.mem_of_download returned
  | upload policy stream declared owner moment =>
    have commits := Pipeline.upload_commits vault policy stream declared owner moment
    have uploaded : (vault.upload policy stream declared owner moment).2.result = .ok row :=
      returned
    rw [uploaded] at commits
    exact of_commits commits
  | download filename moment =>
    have loaded : (vault.store.download filename).result = .ok row :=
      (download_result vault filename moment).symm.trans returned
    change (vault.download filename moment).1.store.condition = _ ∧
      row ∈ (vault.download filename moment).1.store.rows
    rw [download_store]
    exact Store.mem_of_download loaded
  | info => exact returned.elim
  | draft => exact returned.elim
  | request => exact returned.elim

theorem retrieves_of_mem (sound : vault.store.Sound) (ready : vault.store.condition = .ready)
    (member : row ∈ vault.store.rows) : vault.Retrieves row := by
  have loaded : (vault.store.download row.filename).result = .ok row :=
    (Store.download_eq_ok_iff sound ready row.filename row).mpr ⟨member, rfl⟩
  refine ⟨loaded, ?_, ?_⟩
  · intro moment
    rw [download_result]
    exact loaded
  · exact (Store.info_eq_ok_iff sound ready row.id row.info).mpr ⟨row, member, rfl, rfl⟩

theorem missesOnlyAbsent_of_ready (ready : vault.store.condition = .ready) :
    vault.MissesOnlyAbsent where
  loads := Store.download_notFound_iff ready
  downloads := by
    intro filename moment
    rw [← Store.download_notFound_iff ready, Outcome.FailsWith, download_result]
    rfl
  describes := Store.info_notFound_iff ready

/-! ### Delivery -/

/-- A retrievable row that came from an upload is delivered. -/
theorem delivers_of_ends {store after : Store} {site : Site} {part : Part} {owner : Uuid}
    {moment : Moment} (retrieves : vault.Retrieves row)
    (ends : Pipeline.Ends store site.policy (site.stream part)
      part.contentType owner moment after (.ok row)) : vault.Delivers row part := by
  -- The name is one segment of the path, and name and type can be written as headers.
  obtain ⟨named, whole, written⟩ := ends.filename_plain
  obtain ⟨normal, type, supported⟩ := ends.mime_eq
  intro reader request caller later elapsed asked located known
  have routed : Endpoint.ofPath? request.path.toList = some (.image row.filename.toList) := by
    rw [located]
    exact Endpoint.ofPath?_image named whole
  have found : (vault.download row.filename later).2.result = .ok row :=
    retrieves.downloaded later
  have answered : (Site.download vault (String.ofList row.filename.toList) later).2.result =
      .ok ⟨200, Site.imageHeaders row, .content row.content⟩ := by
    rw [String.ofList_toList]
    exact (Site.respond_ok found Site.served).trans (Site.served_eq_ok supported written)
  rw [Site.serve_image asked routed known, answered]
  refine ⟨_, rfl, rfl, congrArg Body.content ends.content_eq_sent, ?_, ?_⟩
  · rw [Site.share_headers reader.origins request _ (by decide), ← normal]
    simp [Site.imageHeaders]
  · rw [Site.share_headers reader.origins request _ (by decide)]
    simp [Site.imageHeaders]

/-! ### Over a session -/

theorem reached_append (condition : Condition) (before : List Operation)
    (operation : Operation) (after : List Operation) :
    reached condition (before ++ operation :: after) =
      (((reached condition before).perform operation).1.run after).1 := by
  rw [reached, run_append, run_cons]
  rfl

/-- What an operation leaves in the table of a ready database is retrieved ever after. -/
theorem reached_retrieves (condition : Condition) (before : List Operation)
    (operation : Operation) (after : List Operation)
    (ready : ((reached condition before).perform operation).1.store.condition = .ready)
    (member : row ∈ ((reached condition before).perform operation).1.store.rows) :
    (reached condition (before ++ operation :: after)).Retrieves row := by
  have sound := reached_sound condition (before ++ operation :: after)
  -- From here on the condition stays and the rows only grow.
  rw [reached_append] at sound ⊢
  refine retrieves_of_mem sound ?_ ?_
  · rw [run_condition]
    exact ready
  · exact (run_rows_kept _ after).subset member

/-- Whatever happens before and after an operation that hands out a row, the row is
    retrieved at the end; if the row was uploaded by a request, which then is answered with
    it, it is delivered as it was sent. Whatever happens, a ready database misses a filename
    or an identifier exactly if no row has it. -/
theorem stored_comes_back (condition : Condition) (before : List Operation)
    (operation : Operation) (after : List Operation) :
    let reply := ((reached condition before).perform operation).2
    let vault := reached condition (before ++ operation :: after)
    (∀ row, reply.Returns row → vault.Retrieves row) ∧
    (∀ site request moment elapsed response,
      operation = .request site request moment elapsed →
      reply.Answers response → response.status = 201 →
      ∃ row part, Site.uploadedPart request = .ok part ∧
        response.body = .json (.object row.attributes) ∧ row.content = part.content ∧
        vault.Retrieves row ∧ vault.Delivers row part) ∧
    (∀ operations, (reached .ready operations).MissesOnlyAbsent) := by
  intro reply vault
  refine ⟨?_, ?_, ?_⟩
  · intro row returned
    obtain ⟨ready, member⟩ := perform_returns returned
    exact reached_retrieves condition before operation after ready member
  · rintro site request moment elapsed response rfl answered status
    have serves := Site.serve_serves site (reached condition before) request moment elapsed
    have same : (site.serve (reached condition before) request moment elapsed).2.result =
        .ok response := answered
    rw [same] at serves
    -- The status tells that the pipeline stored the row that the body shows.
    obtain ⟨owner, part, row, chosen, ends, body⟩ := serves.of_created status
    obtain ⟨-, -, -, -, -, admitted, stored⟩ := ends.of_ok
    have joined := admitted.joined
    rw [← stored] at joined
    have retrieves : vault.Retrieves row :=
      reached_retrieves condition before _ after joined.1 joined.2
    exact ⟨row, part, chosen, body, ends.content_eq_sent, retrieves,
      delivers_of_ends retrieves ends⟩
  · intro operations
    exact missesOnlyAbsent_of_ready (run_condition (empty .ready) operations)

/-- The smallest bitmap, declared with a parameter and in capitals. -/
def sampleRequest : Request :=
  { method := "POST"
    path := "/api/v1/images"
    headers := [("X-User-Id", "00000000-0000-0000-0000-000000000001")]
    parts := [⟨"file", some "dot.pbm", some "image/PNG; q=1",
      [0x50, 0x34, 0x0A, 0x31, 0x20, 0x31, 0x0A, 0x80]⟩] }

def sampleUpload : Operation :=
  .request ⟨some "http://localhost", some 8, 3, "test", ["*"], 64⟩ sampleRequest
    ⟨⟨2⟩, ⟨3⟩, 0, .whole 0, .whole 0⟩ 0.0

/-- A sample that is uploaded, and then uploaded once more in vain under the same name. -/
theorem sample_comes_back :
    ∃ row part, Site.uploadedPart sampleRequest = .ok part ∧ row.content = part.content ∧
      (reached .ready [sampleUpload, sampleUpload]).Retrieves row ∧
      (reached .ready [sampleUpload, sampleUpload]).Delivers row part := by
  have created : (match ((reached .ready []).perform sampleUpload).2 with
      | .answered outcome => outcome.result.toOption.map (·.status)
      | _ => none) = some 201 := by decide +kernel
  obtain ⟨response, answered, status⟩ : ∃ response,
      Reply.Answers response ((reached .ready []).perform sampleUpload).2 ∧
        response.status = 201 := by
    split at created
    next outcome replied =>
      obtain ⟨response, answered, status⟩ := Option.map_eq_some_iff.mp created
      refine ⟨response, ?_, status⟩
      rw [replied]
      cases result : outcome.result with
      | error fault => simp [result, Except.toOption] at answered
      | ok other =>
        have same : other = response := by simpa [result, Except.toOption] using answered
        exact result.trans (congrArg Except.ok same)
    next => cases created
  obtain ⟨row, part, chosen, -, content, retrieves, delivers⟩ :=
    (stored_comes_back .ready [] sampleUpload [sampleUpload]).2.1 _ _ _ _ response rfl
      answered status
  exact ⟨row, part, chosen, content, retrieves, delivers⟩

end Vault

end ImageVault
