import ImageVault.Fault
import ImageVault.Raster.Bmp
import ImageVault.Raster.Format
import ImageVault.Raster.Gif
import ImageVault.Raster.Jpeg
import ImageVault.Raster.Png
import ImageVault.Raster.Pnm

/-!
# Decoding untrusted files

Decoding opens a file and then loads all of it, so truncated and corrupt files fail here.
Opening a file forgives its reader some defects, loading it none. A defect that decoding is
prepared for is a decoding failure, without the words of the reader. Any other defect would be
no failure of the pipeline, and would pass through it.
-/
namespace ImageVault.Raster

structure Picture where
  extent : Extent
  format : Format
  deriving DecidableEq, Repr

/-- A file that has been opened: its extent, and how its pixels are loaded. -/
structure OpenedFile where
  extent : Extent
  load : Unit → Except Defect Unit

/-- Opens a file by the reader of one format. -/
def Format.openFile (format : Format) (content : Bytes) : Except Defect OpenedFile :=
  match format with
  | png => (Png.openFile content).map fun start => ⟨start.extent, fun _ => Png.load start⟩
  | jpeg => (Jpeg.openFile content).map fun extent => ⟨extent, fun _ => Jpeg.load content⟩
  | gif => (Gif.openFile content).map fun picture => ⟨picture.extent, fun _ => Gif.load picture⟩
  | bmp => (Bmp.openFile content).map fun picture => ⟨picture.extent, fun _ => Bmp.load picture⟩
  | pnm => (Pnm.openFile content).map fun picture => ⟨picture.extent, fun _ => Pnm.load picture⟩

/-- A file without pixels is of no format; one with too many is not loaded. -/
def openFile (format : Format) (content : Bytes) : Except Defect OpenedFile := do
  let file ← recover Defect.isForgivenAtOpening (.error .unidentified) do
    let file ← format.openFile content
    demand .malformed file.extent.hasPixels
    return file
  demand .tooManyPixels file.extent.isWithinLimit
  return file

/-- Opens and loads a file. -/
def read (content : Bytes) : Except Defect Picture := do
  let format ← orDefect .unidentified (Format.ofSignature? content)
  let file ← openFile format content
  file.load ()
  return ⟨file.extent, format⟩

/-- Stands for the words of a component that has no fixed ones. -/
def elided : String := "*"

def undecodable : Failure :=
  .of .decode "Uploaded file is not a valid image" [("reason", .string elided)]

def withoutPixels (extent : Extent) : Failure :=
  .of .decode "Decoded image has no pixels"
    [("width", .int extent.width), ("height", .int extent.height)]

def decode (content : Bytes) : Except Fault Picture :=
  match read content with
  | .ok picture =>
    if picture.extent.hasPixels then .ok picture
    else .error (.failure (withoutPixels picture.extent))
  | .error defect =>
    .error (if defect.isForeseen then .failure undecodable else .raster defect)

end ImageVault.Raster
