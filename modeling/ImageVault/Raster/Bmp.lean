import ImageVault.Raster.Defect
import ImageVault.Raster.Extent
import ImageVault.Raster.Field

/-!
# Bitmap files

A file header of 14 bytes gives the offset of the pixels; an information header of one of
seven known sizes gives the extent, the depth and the compression. Depths up to eight bits
use a palette; a palette that is a plain ramp of greys is dropped, and the samples are then
single bytes, or single bits for black and white. Uncompressed rows are padded to multiples
of four bytes, the last one excepted; run-length codes are followed until they have
produced all pixels.
-/
namespace ImageVault.Raster.Bmp

/-- The information header; old headers lack all but the extent and the depth. -/
structure Header where
  size : Nat
  width : Nat
  height : Nat
  depth : Nat
  compression : Nat
  colours : Nat
  paletteEntry : Nat

/-- A height whose highest byte is set counts downwards. -/
def signedHeight (topByte height : Nat) : Nat :=
  if topByte = 0xFF then 0x100000000 - height else height

def newHeaderSizes : List Nat := [40, 52, 56, 64, 108, 124]

def readHeader (content : Bytes) : Except Defect Header := do
  let size ← orDefect .shortField (little32? 14 content)
  let info ← orDefect .broken (field? 14 size content)
  let half := fun offset => orDefect .shortField (little16? offset info)
  let word := fun offset => orDefect .shortField (little32? offset info)
  if size = 12 then
    return { size, width := ← half 4, height := ← half 6, depth := ← half 10
             compression := 0, colours := 0, paletteEntry := 3 }
  else
    demand .broken (newHeaderSizes.contains size)
    let topByte ← orDefect .noSuchPlace (byteAt? 11 info)
    return { size, width := ← word 4, height := signedHeight topByte (← word 8)
             depth := ← half 14, compression := ← word 16, colours := ← word 32
             paletteEntry := 4 }

/-- The number of palette entries, all that the depth allows unless the header says. -/
def Header.colourCount (header : Header) : Nat :=
  if header.colours = 0 then 1 <<< header.depth else header.colours

def knownDepths : List Nat := [1, 4, 8, 16, 24, 32]

/-! ## Colour masks -/

/-- Supported masks for red, green, blue and, at 32 bits, transparency. -/
def supportedMasks : Nat → List (List Nat)
  | 32 =>
    [[0xFF0000, 0xFF00, 0xFF, 0x0], [0xFF000000, 0xFF0000, 0xFF00, 0x0],
     [0xFF000000, 0xFF00, 0xFF, 0x0], [0xFF000000, 0xFF0000, 0xFF00, 0xFF],
     [0xFF, 0xFF00, 0xFF0000, 0xFF000000], [0xFF0000, 0xFF00, 0xFF, 0xFF000000],
     [0xFF000000, 0xFF00, 0xFF, 0xFF0000], [0x0, 0x0, 0x0, 0x0]]
  | 24 => [[0xFF0000, 0xFF00, 0xFF]]
  | 16 => [[0xF800, 0x7E0, 0x1F], [0x7C00, 0x3E0, 0x1F]]
  | _ => []

/-- The masks stand in the header, or right after a short one. -/
def readMasks (header : Header) (content : Bytes) : Option (List Nat) := do
  let colours ← [54, 58, 62].mapM fun offset => little32? offset content
  if header.depth ≠ 32 then return colours
  let transparency ← if header.size < 56 then some 0 else little32? 66 content
  return colours ++ [transparency]

def masksFit (header : Header) (content : Bytes) : Bool :=
  (readMasks header content).any fun masks => (supportedMasks header.depth).contains masks

/-! ## Palettes -/

/-- How samples are stored once the palette is known. -/
inductive Storage where
  | indexed
  | greys
  | blackWhite
  | direct
  deriving DecidableEq

/-- Whether the palette, in entries of `size` bytes, counts up evenly from black. -/
def isRamp (values : List Nat) (size : Nat) (palette : Bytes) : Bool :=
  match values with
  | [] => true
  | value :: rest =>
    palette.take 3 == List.replicate 3 (UInt8.ofNat value)
      && isRamp rest size (palette.drop size)

/-- The storage that a palette of `count` entries implies. -/
def paletteStorage (count size : Nat) (palette : Bytes) : Except Defect Storage := do
  demand .broken (0 < count && count ≤ 65536)
  let values := if count = 2 then [0, 255] else List.range count
  if isRamp values size palette then return if count = 2 then .blackWhite else .greys
  else
    demand .badValue (palette.length / size ≤ 256)
    return .indexed

/-- Bits of one sample in the file. -/
def sampleBits (depth : Nat) : Storage → Nat
  | .indexed => depth
  | .direct => depth
  | .greys => 8
  | .blackWhite => 1

/-! ## Pixels -/

/-- Rows are padded, but the padding of the last row may be missing. -/
def holdsRows (extent : Extent) (depth bits : Nat) (pixels : Bytes) : Bool :=
  let row := (extent.width * bits + 7) / 8
  let stride := (extent.width * depth + 31) / 8 / 4 * 4
  row ≤ stride && (extent.height - 1) * stride + row ≤ pixels.length

/-- The number of pixels produced, and the column within the row. -/
structure RunState where
  produced : Nat
  column : Nat

/-- Follows run-length codes from a position of known parity. Runs are cut off at the end
of the row; copied pixels are not. -/
def holdsRuns (extent : Extent) (nibbles : Bool) :
    Nat → RunState → (odd : Bool) → Bytes → Bool
  | 0, _, _, _ => false
  | fuel + 1, state, odd, pixels =>
    if extent.width * extent.height ≤ state.produced then true
    else
      match pixels with
      | 0 :: 0 :: rest =>
        let column := state.produced % extent.width
        let fill := if column = 0 then 0 else extent.width - column
        holdsRuns extent nibbles fuel ⟨state.produced + fill, 0⟩ odd rest
      | 0 :: 1 :: _ => false
      | 0 :: 2 :: _ :: _ :: right :: up :: rest =>
        let produced := state.produced + right.toNat + up.toNat * extent.width
        holdsRuns extent nibbles fuel ⟨produced, produced % extent.width⟩ odd rest
      | 0 :: 2 :: _ => false
      | 0 :: count :: rest =>
        let bytes := if nibbles then count.toNat / 2 else count.toNat
        let present := min bytes rest.length
        let produced := state.produced + (if nibbles then 2 * present else present)
        if rest.length < bytes then extent.width * extent.height ≤ produced
        else
          let oddAfter := odd != (bytes % 2 == 1)
          let rest := rest.drop (if oddAfter then bytes + 1 else bytes)
          holdsRuns extent nibbles fuel ⟨produced, state.column + count.toNat⟩ false rest
      | count :: _ :: rest =>
        let run := min count.toNat (extent.width - state.column)
        holdsRuns extent nibbles fuel ⟨state.produced + run, state.column + run⟩ odd rest
      | _ => false

/-- The offset of the pixels: the palette is skipped when the offset points at it, and no
offset at all means what follows the headers. -/
def pixelOffset (header : Header) (offset afterHeaders : Nat) : Nat :=
  let offset :=
    if offset = 14 + header.size && header.depth ≤ 8 then offset + 4 * header.colourCount
    else offset
  if offset = 0 then afterHeaders else offset

/-- What the headers and the palette say, and the bytes from the pixels on. -/
structure Picture where
  header : Header
  storage : Storage
  start : Nat
  pixels : Bytes

def Picture.extent (picture : Picture) : Extent :=
  ⟨picture.header.width, picture.header.height⟩

def openFile (content : Bytes) : Except Defect Picture := do
  let offset ← orDefect .shortField (little32? 10 content)
  let header ← readHeader content
  demand .broken (knownDepths.contains header.depth)
  demand .broken (header.compression ≤ 3)
  demand .broken (header.compression ≠ 3 || masksFit header content)
  let masks := if header.compression = 3 && header.size = 40 then 12 else 0
  let afterHeader := 14 + header.size + masks
  let entries := header.paletteEntry * header.colourCount
  let palette := if header.depth ≤ 8 then (content.drop afterHeader).take entries else []
  let storage ←
    if header.depth ≤ 8 then paletteStorage header.colourCount header.paletteEntry palette
    else .ok .direct
  let start := pixelOffset header offset (afterHeader + palette.length)
  return { header, storage, start, pixels := content.drop start }

def load (picture : Picture) : Except Defect Unit := do
  let header := picture.header
  if header.compression = 1 || header.compression = 2 then
    demand .badValue (picture.storage = .indexed || picture.storage = .greys)
    demand .badValue (holdsRuns picture.extent (header.compression = 2)
      (2 * picture.pixels.length + 2) ⟨0, 0⟩ (picture.start % 2 == 1) picture.pixels)
  else
    demand .broken (holdsRows picture.extent header.depth
      (sampleBits header.depth picture.storage) picture.pixels)

end ImageVault.Raster.Bmp
