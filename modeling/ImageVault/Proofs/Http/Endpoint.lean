import ImageVault.Http.Endpoint
import ImageVault.Proofs.Text.Split

/-!
# Paths of the image endpoints

Where the segments of a path lead is told by rules (`Leads`), so that the path of an image and
the path of its description are known from where they lead.
-/

namespace ImageVault.Endpoint

theorem isLast_iff (word : String) (segment : List Char) :
    isLast word segment = true ↔ segment = word.toList ∨ segment = word.toList ++ ['\n'] := by
  simp [isLast]

/-- Where the segments of a path lead. -/
inductive Leads : List (List Char) → Endpoint → Prop
  | root {segment : List Char} : isLast "" segment = true → Leads [segment] root
  | metrics {segment : List Char} : isLast "metrics" segment = true → Leads [segment] metrics
  | health {segment : List Char} : isLast "health" segment = true →
      Leads ["api".toList, segment] health
  | page {segment : List Char} {page : Manual} : page ∈ Manual.atRoot →
      isLast page.word segment = true → Leads [segment] (manual page)
  | signIn {segment : List Char} : isLast Manual.signIn.word segment = true →
      Leads ["docs".toList, segment] (manual .signIn)
  | upload {segment : List Char} : isLast "images" segment = true →
      Leads ["api".toList, "v1".toList, segment] upload
  | image {name : List Char} : name ≠ [] →
      Leads ["api".toList, "v1".toList, "images".toList, name] (image name)
  | info {id segment : List Char} : id ≠ [] → isLast "info" segment = true →
      Leads ["api".toList, "v1".toList, "images".toList, id, segment] (info id)

theorem isImages_iff (api version images : List Char) :
    isImages api version images = true ↔
      api = "api".toList ∧ version = "v1".toList ∧ images = "images".toList := by
  simp only [isImages, Bool.and_eq_true, decide_eq_true_eq, and_assoc]

/-- Segments lead where the rules say, and nowhere else. -/
theorem ofSegments?_eq_some_iff (segments : List (List Char)) (endpoint : Endpoint) :
    ofSegments? segments = some endpoint ↔ Leads segments endpoint := by
  constructor
  · intro routed
    unfold ofSegments? at routed
    -- The number of segments tells which rules can apply.
    split at routed
    next segment =>
      split at routed
      next empty =>
        cases routed
        exact .root empty
      next =>
        split at routed
        next named =>
          cases routed
          exact .metrics named
        next =>
          obtain ⟨page, found, rfl⟩ := Option.map_eq_some_iff.mp routed
          have last := List.find?_some found
          exact .page (List.mem_of_find?_eq_some found) last
    next folder segment =>
      split at routed
      next fits =>
        cases routed
        simp only [Bool.and_eq_true, decide_eq_true_eq] at fits
        obtain ⟨rfl, last⟩ := fits
        exact .health last
      next =>
        split at routed
        next fits =>
          cases routed
          simp only [Bool.and_eq_true, decide_eq_true_eq] at fits
          obtain ⟨rfl, last⟩ := fits
          exact .signIn last
        next => cases routed
    next api version segment =>
      split at routed
      next fits =>
        cases routed
        simp only [Bool.and_eq_true, decide_eq_true_eq] at fits
        obtain ⟨⟨rfl, rfl⟩, last⟩ := fits
        exact .upload last
      next => cases routed
    next api version images name =>
      split at routed
      next fits =>
        cases routed
        rw [Bool.and_eq_true, isImages_iff] at fits
        obtain ⟨⟨rfl, rfl, rfl⟩, present⟩ := fits
        exact .image (by simpa using present)
      next => cases routed
    next api version images id segment =>
      split at routed
      next fits =>
        cases routed
        rw [Bool.and_eq_true, Bool.and_eq_true, isImages_iff] at fits
        obtain ⟨⟨⟨rfl, rfl, rfl⟩, present⟩, last⟩ := fits
        exact .info (by simpa using present) last
      next => cases routed
    next => cases routed
  · intro leads
    cases leads with
    | root empty => simp [ofSegments?, empty]
    | @metrics segment named =>
      have other : isLast "" segment ≠ true := by
        rcases (isLast_iff "metrics" segment).mp named with rfl | rfl <;> decide
      simp [ofSegments?, named, other]
    | health last => simp [ofSegments?, last]
    | @page segment page member last =>
      -- The words of the pages differ from each other and from those that come first.
      rcases (isLast_iff page.word segment).mp last with rfl | rfl <;>
        cases page <;> first | decide | exact absurd member (by decide)
    | signIn last => simp [ofSegments?, last]
    | upload last => simp [ofSegments?, last]
    | image present => simp [ofSegments?, isImages, present]
    | info present last => simp [ofSegments?, isImages, present, last]

/-- A path is cut into the segments that lead somewhere. -/
theorem exists_segments {path : List Char} {endpoint : Endpoint}
    (routed : ofPath? path = some endpoint) :
    ∃ segments, Leads segments endpoint ∧ (∀ segment ∈ segments, '/' ∉ segment) ∧
      path = '/' :: Text.joinWith '/' segments := by
  unfold ofPath? at routed
  split at routed
  next rest =>
    refine ⟨_, (ofSegments?_eq_some_iff _ _).mp routed, fun segment chosen slash => ?_, ?_⟩
    · exact (Text.mem_splitOn chosen slash).2 rfl
    · rw [Text.joinWith_splitOn]
  next => cases routed

/-- Uploads have one path, up to a line break at its end. -/
theorem ofPath?_eq_upload_iff (path : String) :
    ofPath? path.toList = some upload ↔ path = "/api/v1/images" ∨ path = "/api/v1/images\n" := by
  constructor
  · intro routed
    obtain ⟨segments, leads, -, same⟩ := exists_segments routed
    cases leads with
    | upload last =>
      rw [← String.toList_inj, ← String.toList_inj, same]
      rcases (isLast_iff "images" _).mp last with rfl | rfl
      · exact Or.inl rfl
      · exact Or.inr rfl
  · rintro (rfl | rfl) <;> decide

/-- A name without slashes behind the path of the images leads to the image of this name. -/
theorem ofPath?_image {filename : String} (named : filename.toList ≠ [])
    (whole : '/' ∉ filename.toList) :
    ofPath? ("/api/v1/images/" ++ filename).toList = some (image filename.toList) := by
  have written : ("/api/v1/images/" ++ filename).toList =
      '/' :: ("api".toList ++ '/' :: ("v1".toList ++ '/' :: ("images".toList ++
        '/' :: filename.toList))) := by
    rw [String.toList_append]
    rfl
  rw [written, ofPath?, Text.splitOn_append_cons (by decide), Text.splitOn_append_cons (by decide),
    Text.splitOn_append_cons (by decide), Text.splitOn_of_not_mem whole]
  exact (ofSegments?_eq_some_iff _ _).mpr (.image named)

/-! ### The paths of one image -/

/-- The path of an image, by the segment that names it. -/
def imagePath (segment : List Char) : List Char :=
  "/api/v1/images/".toList ++ segment

/-- The path of the description of an image, by the segment that identifies it. -/
def infoPath (segment : List Char) : List Char :=
  "/api/v1/images/".toList ++ segment ++ "/info".toList

theorem imagePath_eq_joinWith (segment : List Char) :
    imagePath segment =
      Text.joinWith '/' [[], "api".toList, "v1".toList, "images".toList, segment] :=
  rfl

theorem infoPath_eq_joinWith (segment : List Char) :
    infoPath segment = Text.joinWith '/'
      [[], "api".toList, "v1".toList, "images".toList, segment, "info".toList] :=
  List.append_assoc "/api/v1/images/".toList segment "/info".toList

theorem ofPath?_eq_image {path name : List Char} (routed : ofPath? path = some (image name)) :
    path = imagePath name ∧ '/' ∉ name := by
  obtain ⟨segments, leads, whole, rfl⟩ := exists_segments routed
  cases leads with
  | image =>
    refine ⟨rfl, whole name ?_⟩
    simp only [List.mem_cons, true_or, or_true]

/-- One line break behind the path does not count. -/
theorem ofPath?_eq_info {path id : List Char} (routed : ofPath? path = some (info id)) :
    (path = infoPath id ∨ path = infoPath id ++ ['\n']) ∧ '/' ∉ id := by
  obtain ⟨segments, leads, whole, rfl⟩ := exists_segments routed
  cases leads with
  | info _ last =>
    refine ⟨?_, whole id ?_⟩
    · rcases (isLast_iff "info" _).mp last with rfl | rfl
      · exact Or.inl (infoPath_eq_joinWith id).symm
      · apply Or.inr
        rw [infoPath_eq_joinWith]
        simp [Text.joinWith]
    · simp only [List.mem_cons, true_or, or_true]

end ImageVault.Endpoint
