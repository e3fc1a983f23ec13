import ImageVault.Json.Display
import ImageVault.Resource

/-!
# Images, before and after they are stored

An image that is to be stored may lack parts, which the store then refuses. A stored image
is complete; its size is written beside its content.
-/
namespace ImageVault

structure NewImage where
  height : Option Int
  width : Option Int
  mime : Option String
  filename : Option String
  url : Option String
  content : Bytes
  deriving DecidableEq

def NewImage.size (image : NewImage) : Nat :=
  image.content.length

structure StoredImage where
  id : Uuid
  ownerId : Uuid
  height : Int
  width : Int
  mime : String
  filename : String
  url : String
  size : Nat
  content : Bytes
  deriving DecidableEq

namespace StoredImage

/-- The image as it is stored, if it is complete. -/
def ofNew? (id owner : Uuid) (image : NewImage) : Option StoredImage := do
  return {
    id := id
    ownerId := owner
    height := ← image.height
    width := ← image.width
    mime := ← image.mime
    filename := ← image.filename
    url := ← image.url
    size := image.size
    content := image.content }

def info (image : StoredImage) : ImageInfo :=
  ⟨image.height, image.width, image.mime, image.filename, image.size, image.ownerId⟩

/-- The attributes that a resource is read from. -/
def attributes (image : StoredImage) : Json.Members :=
  [("id", .string image.id.text), ("owner_id", .string image.ownerId.text),
   ("height", .int image.height), ("width", .int image.width), ("mime", .string image.mime),
   ("filename", .string image.filename), ("url", .string image.url), ("size", .int image.size)]

end StoredImage

/-! ### One-line descriptions of records that may be incomplete -/

namespace Description

def shownId (id : Option Uuid) : String :=
  match id with
  | some id => id.text
  | none => Json.null.display

def image (id owner : Option Uuid) (filename size : Json) : String :=
  "<Image(id=" ++ shownId id ++ ", owner=" ++ shownId owner ++ ", filename=" ++ filename.display
    ++ ", size=" ++ size.display ++ ")>"

def user (id : Option Uuid) (email : Json) : String :=
  "<User(id=" ++ shownId id ++ ", email=" ++ email.display ++ ")>"

end Description

end ImageVault
