import Mathlib.Data.List.Nodup
import ImageVault.Proofs.Http.Site
import ImageVault.Session

/-!
# Rows over a session

## Main result

`rows_grow_soundly`: in every state that a session reaches, the next operation adds at most
one row and changes no other, and the keys, the sizes and the fields of the rows are sound.

## Proof strategy

Each operation is one step of the store (`perform_step`). What a step preserves is carried
through a run by induction on its operations.
-/

namespace ImageVault.Vault

/-! ### One operation -/

/-- Whatever is asked of the vault, at most one row joins the others. -/
theorem perform_step (vault : Vault) (operation : Operation) :
    vault.store.Step (vault.perform operation).1.store := by
  cases operation with
  | save id owner image => exact (Store.save_commits vault.store id owner image).step
  | load => exact .same
  | info => exact .same
  | draft => exact .same
  | upload policy stream declared owner moment =>
    exact (Pipeline.upload_commits vault policy stream declared owner moment).step
  | download filename moment =>
    change vault.store.Step (vault.download filename moment).1.store
    rw [download_store]
    exact .same
  | request site request moment elapsed =>
    exact (Site.serve_serves site vault request moment elapsed).step

/-! ### A run -/

theorem run_cons (vault : Vault) (operation : Operation) (rest : List Operation) :
    (vault.run (operation :: rest)).1 = ((vault.perform operation).1.run rest).1 :=
  rfl

theorem run_append (vault : Vault) (before after : List Operation) :
    (vault.run (before ++ after)).1 = ((vault.run before).1.run after).1 := by
  induction before generalizing vault with
  | nil => rfl
  | cons operation rest ih =>
    rw [List.cons_append, run_cons, run_cons]
    exact ih (vault.perform operation).1

theorem run_rows_kept (vault : Vault) (operations : List Operation) :
    vault.store.rows <+: (vault.run operations).1.store.rows := by
  induction operations generalizing vault with
  | nil => exact List.prefix_refl _
  | cons operation rest ih =>
    have first := (vault.perform_step operation).rows_kept
    exact first.trans (ih (vault.perform operation).1)

theorem run_condition (vault : Vault) (operations : List Operation) :
    (vault.run operations).1.store.condition = vault.store.condition := by
  induction operations generalizing vault with
  | nil => rfl
  | cons operation rest ih =>
    rw [run_cons, ih]
    exact (vault.perform_step operation).condition_eq

theorem run_sound {vault : Vault} (sound : vault.store.Sound) (operations : List Operation) :
    (vault.run operations).1.store.Sound := by
  induction operations generalizing vault with
  | nil => exact sound
  | cons operation rest ih => exact ih (sound.step (vault.perform_step operation))

/-! ### From the empty vault -/

/-- The vault after these operations, from an empty one. -/
def reached (condition : Condition) (operations : List Operation) : Vault :=
  ((empty condition).run operations).1

theorem reached_sound (condition : Condition) (operations : List Operation) :
    (reached condition operations).store.Sound :=
  run_sound (Store.sound_empty condition) operations

theorem attributes_ne_null (row : StoredImage) (name : String) :
    (name, Json.null) ∉ row.attributes := by
  simp [StoredImage.attributes]

/-- Wherever a session has come to, the next operation leaves the rows as they are or appends
    one, whatever follows only appends, and the table is sound: both keys are unique (names
    by their bytes), every size is that of the content, and nothing incomplete gets in. -/
theorem rows_grow_soundly (condition : Condition) (operations : List Operation) :
    let vault := reached condition operations
    (∀ operation, (vault.perform operation).1.store.rows = vault.store.rows ∨
      ∃ row, (vault.perform operation).1.store.rows = vault.store.rows ++ [row]) ∧
    (∀ later, vault.store.rows <+: (vault.run later).1.store.rows) ∧
    (vault.store.rows.map (·.id)).Nodup ∧
    (vault.store.rows.map (·.filename.toUTF8)).Nodup ∧
    (∀ row ∈ vault.store.rows, row.size = row.content.length ∧
      ∀ name, (name, Json.null) ∉ row.attributes) ∧
    (∀ id owner image,
      image.height = none ∨ image.width = none ∨ image.mime = none ∨ image.filename = none ∨
        image.url = none →
      (vault.perform (.save id owner image)).1.store = vault.store) := by
  intro vault
  have sound : vault.store.Sound := reached_sound condition operations
  refine ⟨?_, run_rows_kept vault, sound.ids, ?_, ?_, ?_⟩
  · exact fun operation => (vault.perform_step operation).rows_cases
  · have bytes_injective : Function.Injective String.toUTF8 :=
      fun _ _ same => String.toByteArray_inj.mp same
    have named := sound.filenames.map bytes_injective
    rwa [List.map_map] at named
  · intro row member
    exact ⟨sound.sizes row member, attributes_ne_null row⟩
  · intro id owner image incomplete
    exact vault.save_incomplete id owner incomplete

end ImageVault.Vault
