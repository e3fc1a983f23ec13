import ImageVault.Text.Hex

/-!
# Raster formats

A file is taken for the format whose signature it starts with. No two signatures agree. Other
formats are left out; their files count as files of no format.
-/
namespace ImageVault.Raster

inductive Format where
  | png
  | jpeg
  | gif
  | bmp
  | pnm
  deriving DecidableEq, Repr

namespace Format

def name : Format → String
  | png => "PNG"
  | jpeg => "JPEG"
  | gif => "GIF"
  | bmp => "BMP"
  | pnm => "PPM"

/-- Whether a file can be of the format, by its first bytes. -/
def accepts (format : Format) (content : Bytes) : Bool :=
  match format with
  | png => [0x89, 0x50, 0x4E, 0x47, 0x0D, 0x0A, 0x1A, 0x0A].isPrefixOf content
  | jpeg => [0xFF, 0xD8, 0xFF].isPrefixOf content
  | gif => "GIF87a".toUTF8.toList.isPrefixOf content || "GIF89a".toUTF8.toList.isPrefixOf content
  | bmp => "BM".toUTF8.toList.isPrefixOf content
  | pnm =>
    content.head? = some 0x50
      && (content[1]?).any ("0123456fy".toUTF8.toList.contains ·)

def all : List Format := [png, jpeg, gif, bmp, pnm]

def ofSignature? (content : Bytes) : Option Format :=
  all.find? (·.accepts content)

end Format

end ImageVault.Raster
