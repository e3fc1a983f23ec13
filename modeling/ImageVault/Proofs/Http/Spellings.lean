import ImageVault.Proofs.Http.Labels

/-!
# Labels of requests for descriptions

## Main result

`info_label_by_spelling`: the label of a request for the description of an image, by how the
identifier is spelled. Only the canonical grouping has the one label that is meant for all
identifiers. Braces and the name of the namespace stay in the label, and 32 digits without
hyphens stay as they are, so that each identifier has a label of its own.

## Proof strategy

What is accepted as an identifier is one of four spellings (`isSome_ofStrict?_iff`), and each
tells what becomes of the segment (`Spelling.ofSegment_eq`). A spelling holds no character that
an address would change, so the segment is all that makes the label (`route_spelling`).
-/

namespace ImageVault

open Endpoint (infoPath)

namespace Site

theorem ofList_infoPath (shown : List Char) :
    String.ofList (infoPath shown) = "/api/v1/images/" ++ String.ofList shown ++ "/info" := by
  have parts : ∀ front behind : String, String.ofList (front.toList ++ shown ++ behind.toList) =
      front ++ String.ofList shown ++ behind := by
    intro front behind
    simp only [String.ofList_append, String.ofList_toList]
  exact parts "/api/v1/images/" "/info"

theorem infoPath_injective {first second : List Char}
    (same : String.ofList (infoPath first) = String.ofList (infoPath second)) :
    first = second := by
  have paths : infoPath first = infoPath second := by
    rw [← String.toList_ofList (l := infoPath first), same, String.toList_ofList]
  exact List.append_cancel_left (List.append_cancel_right paths)

/-- An accepted spelling, and the label that it makes. -/
theorem exists_spelling {request : Request} {segment : List Char} {id : Uuid}
    (routed : Endpoint.ofPath? request.path.toList = some (.info segment))
    (accepted : Uuid.ofStrict? segment = some id) :
    ∃ shown, Uuid.Spelling segment shown ∧
      (route request).path = String.ofList (infoPath shown) := by
  obtain ⟨shown, spelling⟩ :=
    (Uuid.isSome_ofStrict?_iff segment).mp (Option.isSome_of_eq_some accepted)
  exact ⟨shown, spelling, route_spelling spelling routed⟩

/-- The label of a request whose path leads to the description of an image, and whose segment
    for the identifier is accepted: of the segment nothing is replaced but the canonical
    grouping, so the label is the one for all identifiers exactly if the segment consists of
    this grouping. Without hyphens no other identifier has the same label, nor has another
    spelling of the same one. -/
theorem info_label_by_spelling {request : Request} {segment : List Char} {id : Uuid}
    (routed : Endpoint.ofPath? request.path.toList = some (.info segment))
    (accepted : Uuid.ofStrict? segment = some id) :
    let label := (route request).path
    (∃ shown, Uuid.Spelling segment shown ∧
      label = "/api/v1/images/" ++ String.ofList shown ++ "/info") ∧
    (label = "/api/v1/images/\x7bid\x7d/info" ↔ segment.length = 36) ∧
    (segment.length = 32 → ∀ (other : Request) (otherSegment : List Char) (otherId : Uuid),
      Endpoint.ofPath? other.path.toList = some (.info otherSegment) →
      Uuid.ofStrict? otherSegment = some otherId → (route other).path = label →
      otherSegment = segment ∧ otherId = id) := by
  intro label
  obtain ⟨shown, spelling, labelled⟩ := exists_spelling routed accepted
  have fixed : "/api/v1/images/\x7bid\x7d/info" = String.ofList (infoPath PathLabel.idLabel) := by
    decide
  refine ⟨⟨shown, spelling, labelled.trans (ofList_infoPath shown)⟩, ?_, ?_⟩
  · rw [← spelling.shown_eq_idLabel_iff, fixed]
    constructor
    · intro same
      exact infoPath_injective (labelled.symm.trans same)
    · rintro rfl
      exact labelled
  · intro bare other otherSegment otherId otherRouted otherAccepted same
    obtain ⟨otherShown, otherSpelling, otherLabelled⟩ :=
      exists_spelling otherRouted otherAccepted
    -- Both labels show the digits themselves, and show nothing else of that length.
    have digits : otherShown = segment := by
      rw [← spelling.shown_eq bare]
      exact infoPath_injective (otherLabelled.symm.trans (same.trans labelled))
    have segments : otherSegment = segment := by
      rw [otherSpelling.eq_shown (digits ▸ bare), digits]
    rw [segments, accepted] at otherAccepted
    exact ⟨segments, (Option.some.inj otherAccepted).symm⟩

/-- A caller who is known asks for the description under this spelling. -/
def sampleInfo (spelled : String) : Request :=
  { method := "GET"
    path := "/api/v1/images/" ++ spelled ++ "/info"
    headers := [("X-User-Id", "00000000-0000-0000-0000-000000000001")]
    parts := [] }

/-- A grouping with letters of both cases. -/
theorem grouped_spelling_is_labelled :
    let request := sampleInfo "01234567-89AB-cdef-0123-456789ABCDEF"
    Endpoint.ofPath? request.path.toList =
        some (.info "01234567-89AB-cdef-0123-456789ABCDEF".toList) ∧
      (route request).path = "/api/v1/images/\x7bid\x7d/info" := by
  intro request
  have routed : Endpoint.ofPath? request.path.toList =
      some (.info "01234567-89AB-cdef-0123-456789ABCDEF".toList) := by decide
  have accepted : Uuid.ofStrict? "01234567-89AB-cdef-0123-456789ABCDEF".toList =
      some ⟨0x0123456789ABCDEF0123456789ABCDEF⟩ := by decide +kernel
  exact ⟨routed, (info_label_by_spelling routed accepted).2.1.mpr (by decide)⟩

/-- The same identifier without hyphens is accepted, for the answer is that no such image is
found. The request is counted under its own path. -/
theorem bare_spelling_is_not_labelled :
    let request := sampleInfo "0123456789abcdef0123456789abcdef"
    let vault : Vault := ⟨.empty .ready, .zero⟩
    let served := serve ⟨some "http://localhost", none, 3, "test", ["*"], 64⟩ vault request
      ⟨⟨2⟩, ⟨3⟩, 0, .whole 0, .whole 0⟩ 0.0
    Endpoint.ofPath? request.path.toList =
        some (.info "0123456789abcdef0123456789abcdef".toList) ∧
      Uuid.ofStrict? "0123456789abcdef0123456789abcdef".toList =
        some ⟨0x0123456789ABCDEF0123456789ABCDEF⟩ ∧
      served.2.result.toOption.map (·.status) = some 404 ∧
      served.1.metrics.requests.entries.map (·.1.route.path) =
        ["/api/v1/images/0123456789abcdef0123456789abcdef/info"] ∧
      (route request).path ≠ "/api/v1/images/\x7bid\x7d/info" := by
  decide +kernel

end Site

end ImageVault
