import ImageVault.Proofs.Filename
import ImageVault.Proofs.Http.Endpoint
import ImageVault.Proofs.Http.Site
import ImageVault.Proofs.Upload.Pieces

/-!
# Getting an uploaded image

An uploaded image has a name that is one segment of a path, and a name and a media type that
fit into headers. So it can always be asked for, and the answer can always be written.
-/

namespace ImageVault

/-! ### What an upload is like -/

namespace Pipeline

variable {store after : Store} {policy : Policy} {stream : ChunkStream}
  {declared : Option String} {owner : Uuid} {moment : Moment} {row : StoredImage}

theorem Ends.content_eq (ends : Ends store policy stream declared owner moment after (.ok row)) :
    row.content = stream.chunks.flatten := by
  obtain ⟨type, picture, url, -, rfl, -, -⟩ := ends.of_ok
  rfl

theorem Ends.mime_eq (ends : Ends store policy stream declared owner moment after (.ok row)) :
    row.mime = MediaType.normalize declared ∧ ∃ type : ImageType, row.mime = type.mime := by
  obtain ⟨type, picture, url, recognised, rfl, -, -⟩ := ends.of_ok
  exact ⟨rfl, type, recognised.supported⟩

theorem Ends.filename_plain
    (ends : Ends store policy stream declared owner moment after (.ok row)) :
    row.filename.toList ≠ [] ∧ '/' ∉ row.filename.toList ∧
      Site.isHeaderText row.filename = true := by
  obtain ⟨type, picture, url, -, rfl, -, -⟩ := ends.of_ok
  refine ⟨Filename.ofType_ne_nil _ _ _ _, Filename.slash_not_mem_ofType _ _ _ _, ?_⟩
  refine List.all_eq_true.mpr fun c member => decide_eq_true ?_
  exact (Filename.mem_ofType_plain _ _ _ _ member).2

/-- An empty file is no image. -/
theorem Ends.content_ne_nil
    (ends : Ends store policy stream declared owner moment after (.ok row)) :
    stream.chunks.flatten ≠ [] := by
  obtain ⟨type, picture, url, recognised, -, -, -⟩ := ends.of_ok
  intro empty
  have decoded := recognised.decoded
  rw [empty, Raster.decode_nil] at decoded
  cases decoded

/-- A file that is read in pieces is stored as it was sent: a file that does not accept the
    size, and pieces of no size, leave nothing that could be decoded. -/
theorem Ends.content_eq_sent {room : Nat} {size : Int} {content : Bytes}
    (ends : Ends store policy (Upload.stream room size content) declared owner moment after
      (.ok row)) : row.content = content := by
  have present := ends.content_ne_nil
  have accepts : SpooledFile.Accepts room content size := by
    by_contra refused
    obtain ⟨interruption, -, broken⟩ := Upload.stream_of_not_accepts refused
    rw [broken] at present
    exact present rfl
  have nonzero : size ≠ 0 := by
    rintro rfl
    rw [Upload.stream_zero accepts] at present
    exact present rfl
  exact ends.content_eq.trans ((Upload.stream_of_accepts accepts).2 nonzero)

end Pipeline

namespace Site

variable {site : Site} {vault : Vault} {request : Request} {moment : Moment}

/-! ### Writing the answer -/

theorem mime_written (type : ImageType) :
    isHeaderText type.mime = true ∧ contentType type.mime = type.mime := by
  cases type <;> decide +kernel

/-- The two headers of an image that is served. -/
def imageHeaders (row : StoredImage) : List (String × String) :=
  [("content-disposition", "inline; filename=\"" ++ row.filename ++ "\""),
   ("content-type", row.mime)]

theorem served_eq_ok {row : StoredImage} {type : ImageType} (supported : row.mime = type.mime)
    (named : isHeaderText row.filename = true) :
    served row = .ok ⟨200, imageHeaders row, .content row.content⟩ := by
  have ⟨typed, undeclared⟩ := mime_written type
  rw [← supported] at typed undeclared
  simp [served, imageHeaders, named, typed, undeclared]

/-! ### Asking for it -/

theorem serve_image {filename : List Char} {caller : Uuid} (asked : request.method = "GET")
    (routed : Endpoint.ofPath? request.path.toList = some (.image filename))
    (known : identify request = .ok caller) (elapsed : Float) :
    (site.serve vault request moment elapsed).2.result =
      (download vault (String.ofList filename) moment).2.result.map
        (CrossOrigin.share site.origins request) := by
  have run : site.run vault request moment (.image filename) =
      download vault (String.ofList filename) moment := by
    simp only [Site.run, asCaller, known]
  have answered := answer_routed site vault moment routed asked
  rw [run] at answered
  rw [serve, answered]

/-- Headers for other origins are none of those that describe the image. -/
theorem share_headers (origins : List String) (request : Request) (response : Response)
    {name : String}
    (other : name ≠ "access-control-allow-origin" ∧ name ≠ "access-control-allow-credentials" ∧
      name ≠ "vary") :
    (CrossOrigin.share origins request response).headers.filter (·.1 = name) =
      response.headers.filter (·.1 = name) := by
  obtain ⟨noOrigin, noCredentials, noVary⟩ := other
  unfold CrossOrigin.share
  cases request.header? "origin" with
  | none => simp [Response.withHeaders, noVary.symm]
  | some origin =>
    by_cases admitted : CrossOrigin.admits origins origin = true <;>
      simp [Response.withHeaders, CrossOrigin.leave, admitted, noVary.symm, noOrigin.symm,
        noCredentials.symm]

end Site

end ImageVault
