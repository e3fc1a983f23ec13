import ImageVault.Failure
import ImageVault.Text.Blank
import ImageVault.Text.LowerCase

/-!
# Declared media types

A declaration is normalised to its essence: parameters after the first semicolon and blanks
around it are dropped, and letters are lowered. Two essences are supported; each names the
file extension under which such images are kept.
-/
namespace ImageVault

namespace MediaType

def essence (declared : List Char) : List Char :=
  Text.lower (Text.trim (declared.takeWhile (· ≠ ';')))

/-- Nothing declared counts as an empty declaration. -/
def normalize (declared : Option String) : String :=
  String.ofList (essence (declared.getD "").toList)

end MediaType

inductive ImageType where
  | jpeg
  | png
  deriving DecidableEq, Repr

namespace ImageType

def all : List ImageType := [jpeg, png]

def mime : ImageType → String
  | jpeg => "image/jpeg"
  | png => "image/png"

def extension : ImageType → String
  | jpeg => "jpeg"
  | png => "png"

def ofMime? (mime : String) : Option ImageType :=
  all.find? (·.mime == mime)

def unsupported (mime : String) : Failure :=
  let shown := if mime.isEmpty then "<missing>" else mime
  .of .unsupportedFormat ("MIME type " ++ shown ++ " is not supported")
    [("mime", .string mime), ("supported", .array (all.map (.string ·.mime)))]

def ofMime (mime : String) : Except Failure ImageType :=
  match ofMime? mime with
  | some type => .ok type
  | none => .error (unsupported mime)

end ImageType

end ImageVault
