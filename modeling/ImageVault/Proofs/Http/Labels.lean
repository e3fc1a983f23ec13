import Mathlib.Data.List.Basic
import ImageVault.Http.Site
import ImageVault.Proofs.Http.Endpoint
import ImageVault.Proofs.Uuid.Spelling

/-!
# Labels of requests for images

The paths under which images are found and described differ in one segment, and what becomes
of this segment makes their label. The path that is labelled is the one that stands in the
address; it is the path of the request, as long as the segment holds no character that an
address would change.
-/

namespace ImageVault

/-! ### Paths inside addresses -/

namespace RequestAddress

/-- Characters that the path of a request keeps as a part of its address. -/
def isKept (c : Char) : Bool :=
  !"\\?#\n\r\t".toList.contains c

theorem path_append (first second : String) :
    path (first ++ second) = path first ++ path second := by
  simp [path, escape, String.ofList_append]

theorem escapeChar_of_isKept {c : Char} (kept : isKept c = true) :
    escapeChar c = [c] ∧ (c ≠ '\n' ∧ c ≠ '\r' ∧ c ≠ '\t') := by
  have apart : c ≠ '\\' ∧ c ≠ '?' ∧ c ≠ '#' ∧ c ≠ '\n' ∧ c ≠ '\r' ∧ c ≠ '\t' := by
    simpa [isKept] using kept
  obtain ⟨backslash, question, hash, breaks⟩ := apart
  exact ⟨by rw [escapeChar, if_neg backslash, if_neg question, if_neg hash], breaks⟩

theorem path_eq_self {text : String} (kept : ∀ c ∈ text.toList, isKept c = true) :
    path text = text := by
  have escaped : escape text.toList = text.toList :=
    (List.flatMap_congr fun c member => (escapeChar_of_isKept (kept c member)).1).trans
      (List.flatMap_singleton' text.toList)
  rw [path, escaped, List.filter_eq_self.mpr, String.ofList_toList]
  intro c member
  simpa [and_assoc] using (escapeChar_of_isKept (kept c member)).2

/-- A line break behind the path is not part of the address. -/
theorem path_append_break (text : String) : path (text ++ "\n") = path text := by
  have nothing : path "\n" = "" := by decide
  rw [path_append, nothing, String.append_empty]

theorem isKept_of_isHexDigit {c : Char} (digit : Text.isHexDigit c = true) :
    isKept c = true := by
  have marks : ("\\?#\n\r\t".toList.all fun mark => !Text.isHexDigit mark) = true := by decide
  have apart : c ∉ "\\?#\n\r\t".toList := by
    intro member
    have other := List.all_eq_true.mp marks c member
    rw [digit] at other
    cases other
  simpa [isKept] using apart

end RequestAddress

theorem PathLabel.IsName.kept {name : List Char} (isName : IsName name) {c : Char}
    (member : c ∈ name) : RequestAddress.isKept c = true := by
  have marks : ("\\?#\n\r\t".toList.all fun mark =>
      !isLowerHexDigit mark && !".jpegn".toList.contains mark) = true := by decide
  have apart : c ∉ "\\?#\n\r\t".toList := by
    intro mark
    have other := List.all_eq_true.mp marks c mark
    simp only [Bool.and_eq_true, Bool.not_eq_true'] at other
    exact isName.not_mem other.1 (by simpa using other.2) member
  simpa [RequestAddress.isKept] using apart

theorem Uuid.Spelling.kept {segment shown : List Char} (spelling : Spelling segment shown)
    {c : Char} (member : c ∈ segment) : RequestAddress.isKept c = true := by
  have marks : "urn:uuid:-\x7b\x7d".toList.all RequestAddress.isKept = true := by decide
  rcases spelling.mem member with digit | mark
  · exact RequestAddress.isKept_of_isHexDigit digit
  · exact List.all_eq_true.mp marks c mark

/-! ### Labels -/

namespace PathLabel

open Endpoint (imagePath infoPath imagePath_eq_joinWith infoPath_eq_joinWith)

theorem ofChars_joinWith {segments : List (List Char)} (some_segment : segments ≠ [])
    (whole : ∀ segment ∈ segments, '/' ∉ segment) :
    ofChars (Text.joinWith '/' segments) =
      Text.joinWith '/' (segments.mapIdx fun place segment =>
        ofSegment (place = 0) (place + 1 = segments.length) segment) := by
  -- The label is known by its segments, and these by the segments of the path.
  have cut := splitOn_ofChars (Text.joinWith '/' segments)
  rw [Text.splitOn_joinWith some_segment whole] at cut
  rw [← cut, Text.joinWith_splitOn]

variable {segment : List Char}

/-- The fixed segments of these paths are no names, and hold no identifiers. -/
theorem ofSegment_fixed : ofSegment true false [] = [] ∧
    ofSegment false false "api".toList = "api".toList ∧
    ofSegment false false "v1".toList = "v1".toList ∧
    ofSegment false false "images".toList = "images".toList ∧
    ofSegment false true "info".toList = "info".toList := by
  decide

theorem ofChars_imagePath (whole : '/' ∉ segment) :
    ofChars (imagePath segment) = imagePath (ofSegment false true segment) := by
  obtain ⟨root, api, version, images, -⟩ := ofSegment_fixed
  rw [imagePath_eq_joinWith, imagePath_eq_joinWith, ofChars_joinWith (List.cons_ne_nil _ _)]
  · change Text.joinWith '/' [ofSegment true false [], ofSegment false false "api".toList,
      ofSegment false false "v1".toList, ofSegment false false "images".toList,
      ofSegment false true segment] = _
    rw [root, api, version, images]
  · simp [whole]

theorem ofChars_infoPath (whole : '/' ∉ segment) :
    ofChars (infoPath segment) = infoPath (ofSegment false false segment) := by
  obtain ⟨root, api, version, images, info⟩ := ofSegment_fixed
  rw [infoPath_eq_joinWith, infoPath_eq_joinWith, ofChars_joinWith (List.cons_ne_nil _ _)]
  · change Text.joinWith '/' [ofSegment true false [], ofSegment false false "api".toList,
      ofSegment false false "v1".toList, ofSegment false false "images".toList,
      ofSegment false false segment, ofSegment false true "info".toList] = _
    rw [root, api, version, images, info]
  · simp [whole]

end PathLabel

namespace Site

open Endpoint (imagePath infoPath)

variable {request : Request} {segment : List Char}

theorem route_upload (routed : Endpoint.ofPath? request.path.toList = some .upload) :
    (route request).path = "/api/v1/images" := by
  change PathLabel.ofPath (RequestAddress.path request.path) = _
  rcases (Endpoint.ofPath?_eq_upload_iff request.path).mp routed with same | same
  · rw [same]
    decide
  · rw [same]
    decide

/-- A request for an image under a generated name. -/
theorem route_name (isName : PathLabel.IsName segment)
    (routed : Endpoint.ofPath? request.path.toList = some (.image segment)) :
    (route request).path = "/api/v1/images/\x7bfilename\x7d" := by
  obtain ⟨same, whole⟩ := Endpoint.ofPath?_eq_image routed
  -- All characters of the path stay in the address, so it is labelled as it was asked for.
  have unchanged : RequestAddress.path request.path = request.path := by
    apply RequestAddress.path_eq_self
    rw [same]
    intro c member
    rcases List.mem_append.mp member with front | inside
    · have plain : "/api/v1/images/".toList.all RequestAddress.isKept = true := by decide
      exact List.all_eq_true.mp plain c front
    · exact isName.kept inside
  rw [route, PathLabel.ofPath, unchanged, same, PathLabel.ofChars_imagePath whole,
    PathLabel.ofSegment_of_isName isName]
  rfl

theorem path_info (kept : ∀ c ∈ segment, RequestAddress.isKept c = true) :
    RequestAddress.path (String.ofList (infoPath segment)) = String.ofList (infoPath segment) := by
  apply RequestAddress.path_eq_self
  rw [String.toList_ofList]
  intro c member
  have plain : ("/api/v1/images/".toList ++ "/info".toList).all RequestAddress.isKept = true := by
    decide
  rcases List.mem_append.mp member with front | behind
  · rcases List.mem_append.mp front with front | inside
    · exact List.all_eq_true.mp plain c (List.mem_append_left _ front)
    · exact kept c inside
  · exact List.all_eq_true.mp plain c (List.mem_append_right _ behind)

/-- A request for the description of an image under an accepted spelling of its identifier. -/
theorem route_spelling {shown : List Char} (spelling : Uuid.Spelling segment shown)
    (routed : Endpoint.ofPath? request.path.toList = some (.info segment)) :
    (route request).path = String.ofList (infoPath shown) := by
  obtain ⟨same, whole⟩ := Endpoint.ofPath?_eq_info routed
  have unchanged := path_info fun c => spelling.kept
  -- A line break behind the path leads to the same place, and is not labelled.
  have unbroken : RequestAddress.path request.path = String.ofList (infoPath segment) := by
    rcases same with same | same
    · rw [← unchanged, ← same, String.ofList_toList]
    · have broken : request.path = String.ofList (infoPath segment) ++ "\n" := by
        rw [← String.toList_inj, same, String.toList_append, String.toList_ofList]
        rfl
      rw [broken, RequestAddress.path_append_break, unchanged]
  rw [route, PathLabel.ofPath, unbroken, String.toList_ofList, PathLabel.ofChars_infoPath whole,
    spelling.ofSegment_eq]

end Site

end ImageVault
