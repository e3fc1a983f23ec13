import Mathlib.Data.List.Nodup
import ImageVault.Proofs.Outcome
import ImageVault.Store

/-!
# Rows of the store

What one access can do to the table, and what holds of the table because of it.

## Main results

* `save_commits`: a save gives back the row that it added, or leaves the store as it was.
* `Sound.step`: keys stay unique and sizes stay true, whatever is done next.
* `download_eq_ok_iff`, `info_eq_ok_iff`: looking up by key finds exactly the row with this key.
-/

namespace ImageVault

/-! ### From an image to a row -/

/-- An image becomes a row exactly if none of its parts is absent. -/
theorem StoredImage.ofNew?_eq_some_iff (id owner : Uuid) (image : NewImage) (row : StoredImage) :
    StoredImage.ofNew? id owner image = some row ↔
      row.id = id ∧ row.ownerId = owner ∧ row.size = row.content.length ∧
      image = ⟨some row.height, some row.width, some row.mime, some row.filename, some row.url,
        row.content⟩ := by
  obtain ⟨height, width, mime, filename, url, content⟩ := image
  constructor
  · intro made
    cases height <;> cases width <;> cases mime <;> cases filename <;> cases url <;>
      simp [StoredImage.ofNew?] at made
    subst row
    exact ⟨rfl, rfl, rfl, rfl⟩
  · rintro ⟨rfl, rfl, measured, same⟩
    cases same
    simp [StoredImage.ofNew?, NewImage.size, ← measured]

namespace Store

variable {store after : Store} {row : StoredImage}

/-- One of the two keys of the row is in the table already. -/
def Taken (store : Store) (row : StoredImage) : Prop :=
  ∃ other ∈ store.rows, other.id = row.id ∨ other.filename = row.filename

theorem taken_iff (store : Store) (row : StoredImage) :
    store.Taken row ↔ (store.hasId row.id || store.hasFilename row.filename) = true := by
  simp only [Taken, hasId, hasFilename, Bool.or_eq_true, List.any_eq_true, decide_eq_true_eq]
  constructor
  · rintro ⟨other, member, same | same⟩
    · exact Or.inl ⟨other, member, same⟩
    · exact Or.inr ⟨other, member, same⟩
  · rintro (⟨other, member, same⟩ | ⟨other, member, same⟩)
    · exact ⟨other, member, Or.inl same⟩
    · exact ⟨other, member, Or.inr same⟩

theorem newRow?_eq_some_iff (store : Store) (id owner : Uuid) (image : NewImage)
    (row : StoredImage) :
    store.newRow? id owner image = some row ↔
      StoredImage.ofNew? id owner image = some row ∧ ¬store.Taken row := by
  cases made : StoredImage.ofNew? id owner image with
  | none => simp [newRow?, made]
  | some candidate =>
    simp only [newRow?, made, Option.bind_eq_bind, Option.bind_some, Option.some.injEq, taken_iff]
    split
    next taken => simp only [reduceCtorEq, false_iff, not_and]; rintro rfl free; exact free taken
    next free => constructor <;> intro same <;> simp_all

/-! ### What one access can do -/

/-- A row that can join the table. -/
structure Admits (store : Store) (row : StoredImage) : Prop where
  ready : store.condition = .ready
  free : ¬store.Taken row
  measured : row.size = row.content.length

/-- An access that stores at most one image, by the store after it and its result. -/
inductive Commits (store : Store) : Store → Except Fault StoredImage → Prop
  | refused (fault : Fault) : Commits store store (.error fault)
  | stored (row : StoredImage) : store.Admits row → Commits store (store.add row) (.ok row)

/-- The store stays as it is, or one new row joins the others. -/
inductive Step (store : Store) : Store → Prop
  | same : Step store store
  | added (row : StoredImage) : store.Admits row → Step store (store.add row)

theorem Commits.step {result : Except Fault StoredImage} (commits : store.Commits after result) :
    store.Step after := by
  cases commits with
  | refused => exact .same
  | stored row admitted => exact .added row admitted

/-- Once a row has joined the table, it is in the table of a ready database. -/
theorem Admits.joined (admitted : store.Admits row) :
    (store.add row).condition = .ready ∧ row ∈ (store.add row).rows :=
  ⟨admitted.ready, List.mem_append_right _ (List.mem_singleton.mpr rfl)⟩

theorem Commits.of_ok (commits : store.Commits after (.ok row)) :
    store.Admits row ∧ after = store.add row := by
  cases commits with
  | stored _ admitted => exact ⟨admitted, rfl⟩

theorem save_commits (store : Store) (id owner : Uuid) (image : NewImage) :
    store.Commits (store.save id owner image).1 (store.save id owner image).2.result := by
  unfold save
  split
  · exact .refused _
  next ready =>
    split
    · exact .refused _
    · split
      next row found =>
        obtain ⟨made, free⟩ := (newRow?_eq_some_iff store id owner image row).mp found
        obtain ⟨-, -, measured, -⟩ := (StoredImage.ofNew?_eq_some_iff id owner image row).mp made
        have condition : store.condition = .ready := by simpa [isReady] using ready
        exact .stored row ⟨condition, free, measured⟩
      · exact .refused _

/-! ### How a complete image fares -/

theorem save_of_not_ready (unready : store.condition ≠ .ready) (id owner : Uuid)
    (image : NewImage) : store.save id owner image = (store, notStored image) := by
  simp [save, isReady, unready]

section Complete

variable {id owner : Uuid} {image : NewImage}

/-- An image whose sides fit into the table either becomes its row or finds a key taken. -/
theorem save_of_ready (ready : store.condition = .ready)
    (made : StoredImage.ofNew? id owner image = some row)
    (highFits : fits row.height = true) (wideFits : fits row.width = true) :
    (store.Taken row → store.save id owner image = (store, violated image)) ∧
    (¬store.Taken row → store.save id owner image = (store.add row, .value row)) := by
  obtain ⟨-, -, -, parts⟩ := (StoredImage.ofNew?_eq_some_iff id owner image row).mp made
  have bothFit : (image.height.all fits && image.width.all fits) = true := by
    simp [parts, highFits, wideFits]
  have joins : store.newRow? id owner image = some row ↔ ¬store.Taken row := by
    rw [newRow?_eq_some_iff]
    exact and_iff_right made
  constructor
  · intro taken
    have absent : store.newRow? id owner image = none := by
      cases found : store.newRow? id owner image with
      | none => rfl
      | some other =>
        -- The image makes only this row, and this row is refused.
        have same := ((newRow?_eq_some_iff store id owner image other).mp found).1
        rw [made, Option.some.injEq] at same
        exact absurd taken (joins.mp (same ▸ found))
    simp [save, isReady, ready, bothFit, absent]
  · intro free
    simp [save, isReady, ready, bothFit, joins.mpr free]

end Complete

/-! ### The table as an invariant -/

/-- Both keys are unique, and every size is the length of the content beside it. -/
structure Sound (store : Store) : Prop where
  ids : (store.rows.map (·.id)).Nodup
  filenames : (store.rows.map (·.filename)).Nodup
  sizes : ∀ row ∈ store.rows, row.size = row.content.length

theorem sound_empty (condition : Condition) : (empty condition).Sound :=
  ⟨List.nodup_nil, List.nodup_nil, fun _ member => by cases member⟩

private theorem nodup_map_append {κ : Type} (key : StoredImage → κ) (rows : List StoredImage)
    (unique : (rows.map key).Nodup) (fresh : ∀ other ∈ rows, key other ≠ key row) :
    ((rows ++ [row]).map key).Nodup := by
  rw [List.map_append, List.nodup_append]
  refine ⟨unique, List.nodup_singleton _, ?_⟩
  intro old known new added
  obtain ⟨other, member, rfl⟩ := List.mem_map.mp known
  simp only [List.map_cons, List.map_nil, List.mem_singleton] at added
  subst new
  exact fresh other member

theorem Sound.add (sound : store.Sound) (admitted : store.Admits row) : (store.add row).Sound where
  ids := nodup_map_append (·.id) store.rows sound.ids
    fun other member same => admitted.free ⟨other, member, Or.inl same⟩
  filenames := nodup_map_append (·.filename) store.rows sound.filenames
    fun other member same => admitted.free ⟨other, member, Or.inr same⟩
  sizes := by
    intro other member
    rcases List.mem_append.mp member with old | new
    · exact sound.sizes other old
    · rw [List.mem_singleton.mp new]
      exact admitted.measured

theorem Sound.step (sound : store.Sound) (step : store.Step after) : after.Sound := by
  cases step with
  | same => exact sound
  | added row admitted => exact sound.add admitted

theorem Step.condition_eq (step : store.Step after) : after.condition = store.condition := by
  cases step <;> rfl

theorem Step.rows_cases (step : store.Step after) :
    after.rows = store.rows ∨ ∃ row, after.rows = store.rows ++ [row] := by
  cases step with
  | same => exact Or.inl rfl
  | added row => exact Or.inr ⟨row, rfl⟩

theorem Step.rows_kept (step : store.Step after) : store.rows <+: after.rows := by
  cases step with
  | same => exact List.prefix_refl _
  | added row => exact List.prefix_append _ _

/-! ### Looking up by key -/

/-- In a table with unique keys, the first row with a key is the only one. -/
private theorem find?_key_eq_some_iff {κ : Type} [DecidableEq κ] (key : StoredImage → κ)
    {rows : List StoredImage} (unique : (rows.map key).Nodup) (wanted : κ) (row : StoredImage) :
    rows.find? (fun other => key other = wanted) = some row ↔ row ∈ rows ∧ key row = wanted := by
  induction rows with
  | nil => simp
  | cons first rest ih =>
    rw [List.map_cons, List.nodup_cons] at unique
    by_cases hit : key first = wanted
    · -- The key of the first row is that of no row behind it.
      have alone : ∀ other ∈ rest, key other ≠ wanted := fun other member same =>
        unique.1 (List.mem_map.mpr ⟨other, member, same.trans hit.symm⟩)
      simp only [List.find?_cons, hit, decide_true, Option.some.injEq, List.mem_cons]
      constructor
      · rintro rfl
        exact ⟨Or.inl rfl, hit⟩
      · rintro ⟨rfl | member, same⟩
        · rfl
        · exact absurd same (alone row member)
    · have other : ∀ row, key row = wanted → row ≠ first := fun row same equal =>
        hit (equal ▸ same)
      simp only [List.find?_cons, hit, decide_false, ih unique.2, List.mem_cons]
      constructor
      · exact fun ⟨member, same⟩ => ⟨Or.inr member, same⟩
      · exact fun ⟨member, same⟩ => ⟨member.resolve_left (other row same), same⟩

private theorem find?_key_eq_none_iff {κ : Type} [DecidableEq κ] (key : StoredImage → κ)
    (rows : List StoredImage) (wanted : κ) :
    rows.find? (fun other => key other = wanted) = none ↔ ∀ row ∈ rows, key row ≠ wanted := by
  simp [List.find?_eq_none]

theorem download_of_ready (ready : store.condition = .ready) (filename : String) :
    store.download filename =
      match store.rows.find? (·.filename = filename) with
      | some row => .value row
      | none => notFound filename "filename" := by
  unfold download
  exact if_neg (by simp [isReady, ready])

theorem info_of_ready (ready : store.condition = .ready) (id : Uuid) :
    store.info id =
      match store.rows.find? (·.id = id) with
      | some row => .value row.info
      | none => notFound id.text "image_id" := by
  unfold Store.info
  exact if_neg (by simp [isReady, ready])

theorem notFound_failsWith {α : Type} (wanted name : String) :
    (notFound wanted name : Outcome α).FailsWith .notFound :=
  ⟨_, rfl, rfl⟩

/-- Only a ready database loads anything, and what it loads is one of the rows. -/
theorem mem_of_download {filename : String} (loaded : (store.download filename).result = .ok row) :
    store.condition = .ready ∧ row ∈ store.rows := by
  by_cases ready : store.condition = .ready
  · rw [download_of_ready ready] at loaded
    refine ⟨ready, ?_⟩
    split at loaded
    next other found =>
      cases loaded
      exact List.mem_of_find?_eq_some found
    next => cases loaded
  · have unready : store.isReady = false := by simpa [isReady] using ready
    rw [download, unready] at loaded
    cases loaded

/-- What is loaded has the name that was asked for, whatever else is in the table. -/
theorem filename_of_download {filename : String}
    (loaded : (store.download filename).result = .ok row) : row.filename = filename := by
  rw [download_of_ready (mem_of_download loaded).1] at loaded
  split at loaded
  next other found =>
    cases loaded
    simpa using List.find?_some found
  next => cases loaded

theorem download_eq_ok_iff (sound : store.Sound) (ready : store.condition = .ready)
    (filename : String) (row : StoredImage) :
    (store.download filename).result = .ok row ↔ row ∈ store.rows ∧ row.filename = filename := by
  rw [← find?_key_eq_some_iff (·.filename) sound.filenames filename row, download_of_ready ready]
  split
  next found => simp [found]
  next absent => simp [absent, notFound]

theorem download_notFound_iff (ready : store.condition = .ready) (filename : String) :
    (store.download filename).FailsWith .notFound ↔
      ∀ row ∈ store.rows, row.filename ≠ filename := by
  rw [← find?_key_eq_none_iff (·.filename) store.rows filename, download_of_ready ready]
  split
  next found => simp [found, Outcome.FailsWith]
  next absent => simp [absent, notFound_failsWith]

theorem info_eq_ok_iff (sound : store.Sound) (ready : store.condition = .ready) (id : Uuid)
    (info : ImageInfo) :
    (store.info id).result = .ok info ↔ ∃ row ∈ store.rows, row.id = id ∧ row.info = info := by
  have found_iff := find?_key_eq_some_iff (·.id) sound.ids id
  rw [info_of_ready ready]
  split
  next row found =>
    simp only [found, Option.some.injEq] at found_iff
    constructor
    · intro same
      have member := (found_iff row).mp rfl
      exact ⟨row, member.1, member.2, by simpa using same⟩
    · rintro ⟨other, member, key, rfl⟩
      rw [(found_iff other).mpr ⟨member, key⟩]
      rfl
  next absent =>
    have missing := (find?_key_eq_none_iff (·.id) store.rows id).mp absent
    constructor
    · intro same
      cases same
    · rintro ⟨other, member, key, -⟩
      exact absurd key (missing other member)

theorem info_notFound_iff (ready : store.condition = .ready) (id : Uuid) :
    (store.info id).FailsWith .notFound ↔ ∀ row ∈ store.rows, row.id ≠ id := by
  rw [← find?_key_eq_none_iff (·.id) store.rows id, info_of_ready ready]
  split
  next found => simp [found, Outcome.FailsWith]
  next absent => simp [absent, notFound_failsWith]

end Store

end ImageVault
