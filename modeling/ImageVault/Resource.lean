import ImageVault.Schema.Checked
import ImageVault.Schema.Coercion

/-!
# Resources

What callers see of an image: the resource, which answers an upload, and the information,
which answers a query. Neither holds the content. Both are read from the attributes of any
object; attributes that they do not name are passed over.
-/
namespace ImageVault

open Schema (Checked)

structure ImageResource where
  id : Uuid
  ownerId : Uuid
  height : Int
  width : Int
  mime : String
  filename : String
  url : String
  size : Int
  deriving DecidableEq

namespace ImageResource

def validate (attributes : Json.Members) : Checked ImageResource :=
  ImageResource.mk <$> .field Schema.uuid attributes "id"
    <*> .field Schema.uuid attributes "owner_id"
    <*> .field Schema.positive attributes "height"
    <*> .field Schema.positive attributes "width"
    <*> .field Schema.text attributes "mime"
    <*> .field Schema.text attributes "filename"
    <*> .field Schema.text attributes "url"
    <*> .field Schema.nonNegative attributes "size"

def attributes (resource : ImageResource) : Json.Members :=
  [("id", .string resource.id.text), ("owner_id", .string resource.ownerId.text),
   ("height", .int resource.height), ("width", .int resource.width),
   ("mime", .string resource.mime), ("filename", .string resource.filename),
   ("url", .string resource.url), ("size", .int resource.size)]

end ImageResource

structure ImageInfo where
  height : Int
  width : Int
  mime : String
  filename : String
  size : Int
  ownerId : Uuid
  deriving DecidableEq

namespace ImageInfo

def validate (attributes : Json.Members) : Checked ImageInfo :=
  ImageInfo.mk <$> .field Schema.integer attributes "height"
    <*> .field Schema.integer attributes "width"
    <*> .field Schema.text attributes "mime"
    <*> .field Schema.text attributes "filename"
    <*> .field Schema.integer attributes "size"
    <*> .field Schema.uuid attributes "owner_id"

def attributes (info : ImageInfo) : Json.Members :=
  [("height", .int info.height), ("width", .int info.width), ("mime", .string info.mime),
   ("filename", .string info.filename), ("size", .int info.size),
   ("owner_id", .string info.ownerId.text)]

end ImageInfo

end ImageVault
