import ImageVault.Raster.Inflate
import ImageVault.Raster.Png.Chunk

/-!
# What chunks say

Besides the pixel data, chunks describe the image, and a malformed description spoils the
file, wherever it stands. Descriptions that do not affect decoding are only checked for
their form: texts must use the one known compression and must not inflate to more than a
mebibyte each or 64 mebibytes together; frames must be numbered in order and lie within the
image.
-/
namespace ImageVault.Raster.Png

/-- What a pixel consists of. -/
inductive PixelKind where
  | bilevel
  | grey
  | deepGrey
  | colour
  | indexed
  | greyAlpha
  | colourAlpha
  deriving DecidableEq

structure PixelLayout where
  kind : PixelKind
  bits : Nat

/-- The layout of a sample depth and a colour type. -/
def layout? (depth colour : Nat) : Option PixelLayout :=
  match depth, colour with
  | 1, 0 => some ⟨.bilevel, 1⟩
  | 2, 0 => some ⟨.grey, 2⟩
  | 4, 0 => some ⟨.grey, 4⟩
  | 8, 0 => some ⟨.grey, 8⟩
  | 16, 0 => some ⟨.deepGrey, 16⟩
  | 8, 2 => some ⟨.colour, 24⟩
  | 16, 2 => some ⟨.colour, 48⟩
  | 1, 3 => some ⟨.indexed, 1⟩
  | 2, 3 => some ⟨.indexed, 2⟩
  | 4, 3 => some ⟨.indexed, 4⟩
  | 8, 3 => some ⟨.indexed, 8⟩
  | 8, 4 => some ⟨.greyAlpha, 16⟩
  | 16, 4 => some ⟨.colourAlpha, 32⟩
  | 8, 6 => some ⟨.colourAlpha, 32⟩
  | 16, 6 => some ⟨.colourAlpha, 64⟩
  | _, _ => none

/-- Part of the image, in pixels from its upper left corner. -/
structure Region where
  left : Nat
  top : Nat
  width : Nat
  height : Nat

/-- What the chunks read so far have established. -/
structure Metadata where
  layout : Option PixelLayout
  width : Nat
  height : Nat
  interlaced : Bool
  /-- Length of the palette in bytes. -/
  palette : Option Nat
  textSize : Nat
  /-- The number of frames that an animation announces. -/
  frames : Option Nat
  /-- The number of the last frame chunk. -/
  sequence : Option Nat
  region : Option Region

namespace Metadata

def empty : Metadata :=
  ⟨none, 0, 0, false, none, 0, none, none, none⟩

def textTotalLimit : Nat := 64 * textLimit

/-- Counts a text of some length. -/
def addText (metadata : Metadata) (length : Nat) : Except Defect Metadata := do
  let textSize := metadata.textSize + length
  demand .badValue (textSize ≤ textTotalLimit)
  return { metadata with textSize }

/-- The bytes before the first zero, and those after it if there is one. -/
def cutAtZero (data : Bytes) : Bytes × Option Bytes :=
  match data.dropWhile (· ≠ 0) with
  | [] => (data, none)
  | _ :: rest => (data.takeWhile (· ≠ 0), some rest)

/-- The bytes of a text, if there are any. -/
def textBytes : InflatedText → Except Defect ByteArray
  | .text bytes => .ok bytes
  | .tooLong => .error .badValue
  | .broken => .error .notInflatable

def inflate (compressed : Bytes) : Except Defect ByteArray :=
  textBytes (inflateText compressed)

def isNotInflatable (defect : Defect) : Bool :=
  defect = .notInflatable

/-- The length of a text in UTF-8, in characters. -/
def textLength? (bytes : ByteArray) : Option Nat :=
  (String.fromUTF8? bytes).map String.length

/-! ## One reader per kind of chunk -/

/-- A header keeps the layout before it if it does not name a known one. -/
def readHeader (metadata : Metadata) (data : Bytes) : Except Defect Metadata := do
  let width ← orDefect .badValue (big32? 0 data)
  let height ← orDefect .badValue (big32? 4 data)
  let depth ← orDefect .badValue (byteAt? 8 data)
  let colour ← orDefect .badValue (byteAt? 9 data)
  let filter ← orDefect .badValue (byteAt? 11 data)
  let interlace ← orDefect .badValue (byteAt? 12 data)
  demand .malformed (filter = 0)
  return { metadata with
    width, height
    layout := (layout? depth colour).orElse fun _ => metadata.layout
    interlaced := metadata.interlaced || interlace ≠ 0 }

def readPalette (metadata : Metadata) (data : Bytes) : Metadata :=
  if metadata.layout.any (·.kind = .indexed) then { metadata with palette := data.length }
  else metadata

/-- Transparency is one sample for greys and three samples for colours. -/
def transparencyLength (metadata : Metadata) : Nat :=
  match metadata.layout.map PixelLayout.kind with
  | some .bilevel => 2
  | some .grey => 2
  | some .deepGrey => 2
  | some .colour => 6
  | _ => 0

/-- A colour profile has a name, a compression method and a compressed body, which may be
defective. Without the end of a name the method is looked for at the start. -/
def readProfile (metadata : Metadata) (data : Bytes) : Except Defect Metadata :=
  match (cutAtZero data).2.getD data with
  | [] => .error .badValue
  | method :: body => do
    demand .malformed (method = 0)
    recover isNotInflatable (.ok metadata) do
      let _ ← inflate body
      return metadata

/-- A text without a keyword is not kept. -/
def readText (metadata : Metadata) (data : Bytes) : Except Defect Metadata :=
  let (keyword, text) := cutAtZero data
  if keyword.isEmpty then .ok metadata else metadata.addText (text.getD []).length

/-- The length of a text after its compression method; a defective text counts as empty. -/
def compressedLength : Bytes → Except Defect Nat
  | [] => .ok 0
  | method :: body => do
    demand .malformed (method = 0)
    recover isNotInflatable (.ok 0) ((inflate body).map (·.size))

def readCompressedText (metadata : Metadata) (data : Bytes) : Except Defect Metadata := do
  let (keyword, text) := cutAtZero data
  let length ← compressedLength (text.getD [])
  if keyword.isEmpty then return metadata else metadata.addText length

/-- An international text counts if all its parts are well formed. -/
def addInternationalText (metadata : Metadata) (language translated : Bytes)
    (text : ByteArray) : Except Defect Metadata :=
  match textLength? ⟨language.toArray⟩, textLength? ⟨translated.toArray⟩, textLength? text with
  | some _, some _, some length => metadata.addText length
  | _, _, _ => .ok metadata

/-- Language, translated keyword and text of an international text follow a flag and a
method; a text in which one of them is missing, or that is defective, is not kept. -/
def readInternationalText (metadata : Metadata) (data : Bytes) : Except Defect Metadata :=
  match cutAtZero data with
  | (_, some (flag :: method :: rest)) =>
    match cutAtZero rest with
    | (language, some rest) =>
      match cutAtZero rest with
      | (translated, some body) =>
        if flag = 0 then metadata.addInternationalText language translated ⟨body.toArray⟩
        else if method ≠ 0 then .ok metadata
        else
          recover isNotInflatable (.ok metadata) do
            metadata.addInternationalText language translated (← inflate body)
      | _ => .ok metadata
    | _ => .ok metadata
  | _ => .ok metadata

/-- A second announcement of an animation cancels the first one. -/
def readAnimation (metadata : Metadata) (data : Bytes) : Except Defect Metadata := do
  let count ← orDefect .badValue (big32? 0 data)
  let _ ← orDefect .badValue (big32? 4 data)
  if metadata.frames.isSome then return { metadata with frames := none }
  else if count = 0 || 0x80000000 < count then return metadata
  else return { metadata with frames := some count }

/-- Frame chunks are numbered from zero without gaps. -/
def follows (metadata : Metadata) (number : Nat) : Bool :=
  match metadata.sequence with
  | none => number = 0
  | some last => number = last + 1

def readFrame (metadata : Metadata) (data : Bytes) : Except Defect Metadata := do
  let _ ← orDefect .badValue (field? 0 26 data)
  let number ← orDefect .badValue (big32? 0 data)
  let width ← orDefect .badValue (big32? 4 data)
  let height ← orDefect .badValue (big32? 8 data)
  let left ← orDefect .badValue (big32? 12 data)
  let top ← orDefect .badValue (big32? 16 data)
  demand .malformed (metadata.follows number)
  demand .malformed (left + width ≤ metadata.width && top + height ≤ metadata.height)
  return { metadata with sequence := some number, region := some ⟨left, top, width, height⟩ }

/-- The data of a later frame starts with its number, which is not the first one. -/
def readFrameNumber (metadata : Metadata) (content : Bytes) : Except Defect Metadata := do
  let number ← orDefect .broken (big32? 0 content)
  demand .malformed (metadata.sequence.isSome && metadata.follows number)
  return { metadata with sequence := some number }

/-- Of some chunks only the length matters. A chunk that is too short for its fields is
refused wherever it stands. -/
def requireLength (metadata : Metadata) (fits : Bool) : Except Defect Metadata := do
  demand .badValue fits
  return metadata

/-- Takes a chunk into account; chunks of unknown name say nothing. -/
def read (metadata : Metadata) (name : String) (data : Bytes) : Except Defect Metadata :=
  match name with
  | "IHDR" => metadata.readHeader data
  | "PLTE" => .ok (metadata.readPalette data)
  | "tRNS" => metadata.requireLength (metadata.transparencyLength ≤ data.length)
  | "iCCP" => metadata.readProfile data
  | "tEXt" => metadata.readText data
  | "zTXt" => metadata.readCompressedText data
  | "iTXt" => metadata.readInternationalText data
  | "acTL" => metadata.readAnimation data
  | "fcTL" => metadata.readFrame data
  | "gAMA" => metadata.requireLength (4 ≤ data.length)
  | "sRGB" => metadata.requireLength (1 ≤ data.length)
  | "pHYs" => metadata.requireLength (9 ≤ data.length)
  | "cHRM" => metadata.requireLength (data.length % 4 = 0)
  | _ => .ok metadata

/-- An image is animated if it has more than one frame, the still image included. -/
def isAnimated (metadata : Metadata) : Bool :=
  metadata.frames.any fun count => 1 < count || metadata.region.isNone

/-- A palette belongs to images with single-byte samples and has at most 256 entries. -/
def paletteFits (metadata : Metadata) : Bool :=
  metadata.palette.all fun length =>
    length / 3 ≤ 256 && metadata.layout.any fun layout =>
      layout.kind = .indexed || layout.kind = .grey || layout.kind = .greyAlpha

/-- The part of the image that the pixel data covers; it is not empty and lies within. -/
def pixelRegion (metadata : Metadata) : Except Defect Region := do
  let region := metadata.region.getD ⟨0, 0, metadata.width, metadata.height⟩
  demand .badValue (0 < region.width && 0 < region.height)
  demand .badValue (region.left + region.width ≤ metadata.width)
  demand .badValue (region.top + region.height ≤ metadata.height)
  return region

end Metadata

end ImageVault.Raster.Png
