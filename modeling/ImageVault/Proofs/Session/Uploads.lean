import Mathlib.Data.List.Induction
import ImageVault.Proofs.Http.Download
import ImageVault.Proofs.PublicAddress.Shape
import ImageVault.Proofs.Session.RoundTrip

/-!
# What uploaded rows are like

## Main result

`uploaded_rows_consistent`: in every state that a session reaches, each row was added by one
of its operations, and what was added by an upload, direct or by request, is consistent: its
media type, name, address, sides and size all fit each other and the content.

## Proof strategy

The parts of a row come from five stages of the pipeline. The only rule that ends with a row
has their results as premises, so the parts are compared there (`Ends.consistent`). Rows are
never changed, so what holds of a row when it is added holds ever after; which operation
added it is found by induction on the operations, from the last one backwards.
-/

namespace ImageVault

/-- The parts of a row fit each other and the policy that it was uploaded under. -/
structure StoredImage.Consistent (policy : Policy) (row : StoredImage) : Prop where
  named : ∃ digits : List Char, digits.length = 16 ∧
    (∀ c ∈ digits, c ∈ "0123456789abcdef".toList) ∧
    (row.mime = "image/jpeg" ∧ row.filename = String.ofList (digits ++ ".jpeg".toList) ∨
      row.mime = "image/png" ∧ row.filename = String.ofList (digits ++ ".png".toList))
  addressed : ("http://".toList <+: row.url.toList ∨ "https://".toList <+: row.url.toList) ∧
    ("/api/v1/images/" ++ row.filename).toList <:+ row.url.toList
  decoded : ∃ picture, Raster.decode row.content = .ok picture ∧
    row.height = picture.extent.height ∧ row.width = picture.extent.width
  sides : 0 < row.height ∧ 0 < row.width
  measured : row.size = row.content.length
  bounded : ∀ limit, policy.sizeLimit = some limit → row.size ≤ limit

/-- The policy under which an operation uploads, if it can upload at all. -/
def Operation.uploadPolicy? : Operation → Option Policy
  | .upload policy .. => some policy
  | .request site .. => some site.policy
  | _ => none

/-! ### A row that is uploaded -/

namespace Pipeline

variable {store after : Store} {policy : Policy} {stream : ChunkStream}
  {declared : Option String} {owner : Uuid} {moment : Moment} {row : StoredImage}

theorem addressOf_eq_ok {type : ImageType} {url : String}
    (addressed : addressOf policy stream moment type = .ok url) :
    ("http://".toList <+: url.toList ∨ "https://".toList <+: url.toList) ∧
      ("/api/v1/images/" ++ filenameOf stream moment type).toList <:+ url.toList := by
  have form := filenameOf_form stream moment type
  have ends := PublicAddress.resolve_eq_ok form.imagePath_plain
    (PublicAddress.imagePath_written _) addressed
  rw [PublicAddress.imagePath_rooted]
  exact ends

/-- A row that the pipeline stores is consistent: all its parts are there when it is made. -/
theorem Ends.consistent
    (ends : Ends store policy stream declared owner moment after (.ok row)) :
    row.Consistent policy := by
  have sides := ends.sides_positive
  have present := ends.content_ne_nil
  cases ends with
  | @stored type picture url recognised addressed ready free =>
    refine ⟨?_, addressOf_eq_ok addressed, ⟨picture, recognised.decoded, rfl, rfl⟩, sides, rfl, ?_⟩
    · obtain ⟨digits, sixteen, lower, form⟩ := filenameOf_form stream moment type
      refine ⟨digits, sixteen, lower, ?_⟩
      cases type with
      | jpeg => exact Or.inl ⟨recognised.supported, form⟩
      | png => exact Or.inr ⟨recognised.supported, form⟩
    · intro limit limited
      have received := recognised.received
      rw [limited] at received
      exact ChunkStream.length_le_of_receive received present

/-- Only the row that is handed out can have been added. -/
theorem Ends.of_added {result : Except Fault StoredImage}
    (ends : Ends store policy stream declared owner moment after result)
    (added : after.rows = store.rows ++ [row]) : result = .ok row := by
  cases result with
  | error fault =>
    rw [ends.of_error] at added
    simp at added
  | ok other =>
    obtain ⟨-, -, -, -, -, -, rfl⟩ := ends.of_ok
    have same : other = row := by simpa [Store.add] using added
    rw [same]

end Pipeline

/-- A request that adds a row is one whose upload was stored. -/
theorem Site.Serves.consistent {site : Site} {store after : Store} {request : Request}
    {moment : Moment} {result : Except Fault Response} {row : StoredImage}
    (serves : Serves site store request moment after result)
    (added : after.rows = store.rows ++ [row]) : row.Consistent site.policy := by
  cases serves with
  | created _ _ _ _ ends =>
    cases ends.of_added added
    exact ends.consistent
  | untouched => simp at added

/-! ### One operation -/

namespace Vault

/-- The operation puts the row behind those that the table has already. -/
def Adds (vault : Vault) (operation : Operation) (row : StoredImage) : Prop :=
  (vault.perform operation).1.store.rows = vault.store.rows ++ [row]

variable {row : StoredImage}

theorem Adds.consistent {vault : Vault} {operation : Operation} {policy : Policy}
    (added : vault.Adds operation row) (uploads : operation.uploadPolicy? = some policy) :
    row.Consistent policy := by
  cases operation with
  | upload given stream declared owner moment =>
    cases uploads
    have ends := Pipeline.upload_ends vault policy stream declared owner moment
    have stored := ends.of_added added
    rw [stored] at ends
    exact ends.consistent
  | request site request moment elapsed =>
    cases uploads
    exact (Site.serve_serves site vault request moment elapsed).consistent added
  | save => cases uploads
  | load => cases uploads
  | info => cases uploads
  | draft => cases uploads
  | download => cases uploads

/-- Reading adds nothing. -/
theorem Adds.saves_or_uploads {vault : Vault} {operation : Operation}
    (added : vault.Adds operation row) :
    (∃ id owner image, operation = .save id owner image) ∨
      ∃ policy, operation.uploadPolicy? = some policy := by
  have longer : vault.store.rows ≠ vault.store.rows ++ [row] := by simp
  cases operation with
  | save id owner image => exact Or.inl ⟨id, owner, image, rfl⟩
  | upload policy => exact Or.inr ⟨policy, rfl⟩
  | request site => exact Or.inr ⟨site.policy, rfl⟩
  | load => exact (longer added).elim
  | info => exact (longer added).elim
  | draft => exact (longer added).elim
  | download filename moment =>
    have grown : (vault.download filename moment).1.store.rows = vault.store.rows ++ [row] := added
    rw [download_store] at grown
    exact (longer grown).elim

theorem mem_perform_cases {vault : Vault} {operation : Operation}
    (member : row ∈ (vault.perform operation).1.store.rows) :
    row ∈ vault.store.rows ∨ vault.Adds operation row := by
  obtain same | ⟨other, grown⟩ := (vault.perform_step operation).rows_cases
  · exact Or.inl (same ▸ member)
  · rw [grown, List.mem_append] at member
    refine member.imp_right fun new => ?_
    rw [List.mem_singleton.mp new]
    exact grown

/-! ### A session -/

/-- What is in the table was added on the way, and what was added on the way is there. -/
theorem mem_reached_iff (condition : Condition) (operations : List Operation) :
    row ∈ (reached condition operations).store.rows ↔
      ∃ before operation after, operations = before ++ operation :: after ∧
        (reached condition before).Adds operation row := by
  constructor
  · intro member
    induction operations using List.reverseRecOn with
    | nil => cases member
    | append_singleton earlier last ih =>
      rw [reached_append] at member
      rcases mem_perform_cases member with known | added
      · obtain ⟨before, operation, after, rfl, added⟩ := ih known
        exact ⟨before, operation, after ++ [last], by simp, added⟩
      · exact ⟨earlier, last, [], rfl, added⟩
  · rintro ⟨before, operation, after, rfl, added⟩
    rw [reached_append]
    have joined : row ∈ ((reached condition before).perform operation).1.store.rows := by
      rw [added]
      exact List.mem_append_right _ (List.mem_singleton.mpr rfl)
    exact (run_rows_kept _ after).subset joined

/-- Each row that a session has come to was added by one of its operations, and whatever an
    upload added, be it direct or by request, is there unchanged and is consistent. -/
theorem uploaded_rows_consistent (condition : Condition) (operations : List Operation) :
    let rows := (reached condition operations).store.rows
    (∀ row ∈ rows, ∃ before operation after, operations = before ++ operation :: after ∧
      (reached condition before).Adds operation row ∧
      ((∃ id owner image, operation = .save id owner image) ∨
        ∃ policy, operation.uploadPolicy? = some policy)) ∧
    (∀ before operation after row policy, operations = before ++ operation :: after →
      (reached condition before).Adds operation row → operation.uploadPolicy? = some policy →
      row ∈ rows ∧ row.Consistent policy) := by
  intro rows
  constructor
  · intro row member
    obtain ⟨before, operation, after, split, added⟩ :=
      (mem_reached_iff condition operations).mp member
    exact ⟨before, operation, after, split, added, added.saves_or_uploads⟩
  · intro before operation after row policy split added uploads
    have member := (mem_reached_iff condition operations).mpr
      ⟨before, operation, after, split, added⟩
    exact ⟨member, added.consistent uploads⟩

/-- The sample is uploaded, and stays when it is uploaded once more in vain. -/
theorem sample_upload_consistent :
    ∃ row, (reached .ready []).Adds sampleUpload row ∧
      row ∈ (reached .ready [sampleUpload, sampleUpload]).store.rows ∧
      row.Consistent ⟨some "http://localhost", some 8⟩ := by
  have grown : ((reached .ready []).perform sampleUpload).1.store.rows.length = 1 := by
    decide +kernel
  obtain same | ⟨row, added⟩ := ((reached .ready []).perform_step sampleUpload).rows_cases
  · rw [same] at grown
    cases grown
  · exact ⟨row, added, (uploaded_rows_consistent .ready [sampleUpload, sampleUpload]).2
      [] sampleUpload [sampleUpload] row _ rfl added rfl⟩

end Vault

end ImageVault
