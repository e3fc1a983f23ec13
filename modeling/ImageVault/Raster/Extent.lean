/-!
# Extents

The width and the height of an image, both positive. Images with too many pixels are
refused before they are decoded, so that a small file cannot ask for a huge amount of work.
-/
namespace ImageVault.Raster

structure Extent where
  width : Nat
  height : Nat
  deriving DecidableEq, Repr

/-- Twice the number of 24-bit pixels in a quarter of a gibibyte. -/
def pixelLimit : Nat := 2 * (1024 * 1024 * 1024 / 4 / 3)

namespace Extent

def hasPixels (extent : Extent) : Bool :=
  0 < extent.width && 0 < extent.height

def isWithinLimit (extent : Extent) : Bool :=
  extent.width * extent.height ≤ pixelLimit

end Extent

end ImageVault.Raster
