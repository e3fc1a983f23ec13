import ImageVault.Proofs.Outcome
import ImageVault.Proofs.Uuid
import ImageVault.Store.Image

/-!
# Resources, written and read

A resource with acceptable numbers is read back from its attributes, and so is the information
in it. A stored image whose sides are positive is an acceptable resource, and the resource shows
the attributes that it was read from.
-/

namespace ImageVault

open Schema (Checked)

theorem Schema.uuid_text (id : Uuid) : Schema.uuid (.string id.text) = .ok id := by
  simp [Schema.uuid, Uuid.text, Uuid.ofStrict?_chars]

/-! ### Attributes read back -/

/-- A resource is read back from its attributes, if its numbers are acceptable. -/
theorem ImageResource.validate_attributes {resource : ImageResource} (high : 0 < resource.height)
    (wide : 0 < resource.width) (sized : 0 ≤ resource.size) :
    validate resource.attributes = .valid resource := by
  have highRead : Schema.positive (.int resource.height) = .ok resource.height := by
    simp [Schema.positive, Schema.integer, high]
  have wideRead : Schema.positive (.int resource.width) = .ok resource.width := by
    simp [Schema.positive, Schema.integer, wide]
  have sizeRead : Schema.nonNegative (.int resource.size) = .ok resource.size := by
    simp [Schema.nonNegative, Schema.integer, sized]
  have idRead := Schema.uuid_text resource.id
  have ownerRead := Schema.uuid_text resource.ownerId
  simp [validate, attributes, Checked.field, List.lookup_cons, idRead, ownerRead,
    highRead, wideRead, sizeRead, Schema.text]
  rfl

/-- Information is read back from its attributes, whatever its numbers are. -/
theorem ImageInfo.validate_attributes (info : ImageInfo) :
    validate info.attributes = .valid info := by
  have ownerRead := Schema.uuid_text info.ownerId
  simp [validate, attributes, Checked.field, List.lookup_cons, ownerRead, Schema.text,
    Schema.integer]
  rfl

namespace StoredImage

/-- The resource that shows a stored image. -/
def resource (row : StoredImage) : ImageResource :=
  { id := row.id
    ownerId := row.ownerId
    height := row.height
    width := row.width
    mime := row.mime
    filename := row.filename
    url := row.url
    size := row.size }

theorem resource_attributes (row : StoredImage) : row.resource.attributes = row.attributes :=
  rfl

theorem validate_attributes {row : StoredImage} (high : 0 < row.height) (wide : 0 < row.width) :
    ImageResource.validate row.attributes = .valid row.resource := by
  have sized : 0 ≤ row.resource.size := Int.natCast_nonneg row.size
  rw [← resource_attributes]
  exact ImageResource.validate_attributes high wide sized

end StoredImage

end ImageVault
