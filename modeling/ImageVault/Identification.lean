import ImageVault.EventLog.Record
import ImageVault.MediaType
import ImageVault.Raster.Decode

/-!
# Identifying an upload

The declared media type must be supported; this is checked before any decoding. Otherwise
the declaration does not matter for decoding, but a file of another format is warned about.
-/
namespace ImageVault

/-- The media types of the formats that have one here. -/
def Raster.Format.imageType? : Raster.Format → Option ImageType
  | .png => some .png
  | .jpeg => some .jpeg
  | _ => none

namespace Identification

def mismatch (declared : ImageType) (format : Raster.Format) : LogRecord :=
  { severity := .warning
    source := .validation
    message :=
      "Declared MIME " ++ declared.mime ++ " does not match decoded format " ++ format.name
    extra := [("declared_mime", .string declared.mime), ("decoded_format", .string format.name)]
    traced := false }

/-- The warning that is due, if any. -/
def warnings (declared : ImageType) (format : Raster.Format) : List LogRecord :=
  if format.imageType? = some declared then [] else [mismatch declared format]

/-- The declared type, the picture and the warnings. -/
structure Identified where
  type : ImageType
  picture : Raster.Picture
  logs : List LogRecord

def identify (content : Bytes) (mime : String) : Except Fault Identified := do
  let type ← (ImageType.ofMime mime).mapError .failure
  let picture ← Raster.decode content
  return ⟨type, picture, warnings type picture.format⟩

end Identification

end ImageVault
