import ImageVault.Proofs.Store.Rows
import ImageVault.Vault

/-!
# The vault around its store

Counting and recording do not show in the store: a vault that is saved to or downloaded from
does with its store what the store does by itself.
-/

namespace ImageVault.Vault

/-- A save of an image that lacks a part leaves the store as it was. -/
theorem save_incomplete (vault : Vault) (id owner : Uuid) {image : NewImage}
    (incomplete : image.height = none ∨ image.width = none ∨ image.mime = none ∨
      image.filename = none ∨ image.url = none) :
    (vault.save id owner image).1.store = vault.store := by
  have unmade : StoredImage.ofNew? id owner image = none := by
    cases made : StoredImage.ofNew? id owner image with
    | none => rfl
    | some row =>
      obtain ⟨-, -, -, rfl⟩ := (StoredImage.ofNew?_eq_some_iff id owner image row).mp made
      simp at incomplete
  -- No row can be made of the image, whatever the keys in the table are.
  have refused : vault.store.newRow? id owner image = none := by
    simp [Store.newRow?, unmade]
  change (vault.store.save id owner image).1 = vault.store
  unfold Store.save
  rw [refused]
  split
  · rfl
  · split <;> rfl

theorem download_store (vault : Vault) (filename : String) (moment : Moment) :
    (vault.download filename moment).1.store = vault.store := by
  unfold download
  dsimp only
  split <;> rfl

theorem download_result (vault : Vault) (filename : String) (moment : Moment) :
    (vault.download filename moment).2.result = (vault.store.download filename).result := by
  unfold download
  dsimp only
  split <;> simp_all

end ImageVault.Vault
