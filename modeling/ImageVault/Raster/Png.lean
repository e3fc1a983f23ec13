import ImageVault.Raster.Extent
import ImageVault.Raster.Png.Pixels

/-!
# Portable network graphics

Reading has three phases. The chunks in front of the pixel data fix the extent. The pixel
data is decoded to its end, through as many data chunks as it takes. The chunks behind it
are then read to the end chunk; they may be missing, but may not be malformed.
-/
namespace ImageVault.Raster.Png

def signature : Bytes :=
  [0x89, 0x50, 0x4E, 0x47, 0x0D, 0x0A, 0x1A, 0x0A]

/-- The start of the pixel data: what is known by then, the data left in the chunk, and the
bytes from there on. -/
structure DataStart where
  metadata : Metadata
  left : Nat
  rest : Bytes

/-- Reads the chunks in front of the pixel data. By then the layout has to be known. -/
def findData : Nat → Metadata → Bytes → Except Defect DataStart
  | 0, _, _ => .error .shortField
  | fuel + 1, metadata, content => do
    let (header, rest) ← readChunkHeader content
    if header.name = "IDAT" then
      demand .malformed metadata.layout.isSome
      return ⟨metadata, header.length, rest⟩
    else if header.name = "fdAT" then
      demand .badValue (4 ≤ header.length)
      let metadata ← metadata.readFrameNumber rest
      demand .malformed metadata.layout.isSome
      return ⟨metadata, header.length - 4, rest.drop 4⟩
    else if header.name = "IEND" then throw .broken
    else
      let (data, rest) ← takeData header.length rest
      let metadata ← metadata.read header.name data
      findData fuel metadata (← verify header.name data rest)

/-- Bytes handed to the decoder at a time, at most. -/
def feedSize : Nat := 65536

/-- Moves on to the next data chunk that is not empty; no other chunk may come first. -/
def nextData : Nat → DataStart → Except Defect DataStart
  | 0, _ => .error .broken
  | fuel + 1, start => do
    if start.left ≠ 0 then return start
    else
      let (header, rest) ← readChunkHeader (start.rest.drop 4)
      if header.name = "IDAT" || header.name = "DDAT" then
        nextData fuel { start with left := header.length, rest }
      else if header.name = "fdAT" then
        demand .badValue (4 ≤ header.length)
        let metadata ← start.metadata.readFrameNumber rest
        nextData fuel ⟨metadata, header.length - 4, rest.drop 4⟩
      else throw .broken

/-- Fetches more pixel data. A chunk that is cut short says that the file breaks off. -/
def moreData (start : DataStart) : Except Defect DataStart :=
  recover Defect.isTruncation (.error .broken) (nextData (start.rest.length + 2) start)

/-- Decodes the pixel data; gives where it stops reading. -/
def decodePixels : Nat → DataStart → Inflater → RowState → Except Defect DataStart
  | 0, _, _, _ => .error .broken
  | fuel + 1, start, machine, state => do
    let start ← moreData start
    let wanted := min feedSize start.left
    let input := start.rest.take wanted
    demand .broken (!input.isEmpty)
    let start := { start with left := start.left - wanted, rest := start.rest.drop wanted }
    match feedRows machine state input with
    | .whole => return start
    | .broken => throw .broken
    | .hungry machine state => decodePixels fuel start machine state

/-- Whether a chunk that cannot be told from its header ends the file. -/
def endsFile (defect : Defect) : Bool :=
  defect = .shortField || defect = .malformed

/-- The header of the next chunk behind the pixel data, from a checksum on, if there is one.
A file that breaks off between chunks is accepted, and so is one whose next chunk has no
name. -/
def nextHeader? (content : Bytes) : Except Defect (Option (ChunkHeader × Bytes)) :=
  recover endsFile (.ok none) ((readChunkHeader (content.drop 4)).map some)

/-- Takes a chunk behind the pixel data into account. Pixel data of later frames is passed
over, once its number is read. -/
def passChunk (metadata : Metadata) (header : ChunkHeader) (content : Bytes) :
    Except Defect (Metadata × Bytes) := do
  if header.name = "fdAT" then
    demand .badValue (4 ≤ header.length)
    let metadata ← metadata.readFrameNumber content
    let (_, rest) ← takeData header.length content
    return (metadata, rest)
  else
    let (data, rest) ← takeData header.length content
    return (← metadata.read header.name data, rest)

/-- Reads the chunks behind the pixel data. Nothing that befalls their readers is forgiven. -/
def finish : Nat → (animated : Bool) → Metadata → Bytes → Except Defect Unit
  | 0, _, _, _ => .error .broken
  | fuel + 1, animated, metadata, content => do
    match ← nextHeader? content with
    | none => return
    | some (header, rest) =>
      if header.name = "IEND" || (header.name = "fcTL" && animated) then return
      else
        let (metadata, rest) ← passChunk metadata header rest
        finish fuel animated metadata rest

def openFile (content : Bytes) : Except Defect DataStart :=
  let body := content.drop signature.length
  findData (body.length + 1) .empty body

def DataStart.extent (start : DataStart) : Extent :=
  ⟨start.metadata.width, start.metadata.height⟩

def load (start : DataStart) : Except Defect Unit := do
  let metadata := start.metadata
  let region ← metadata.pixelRegion
  let layout ← orDefect .badValue metadata.layout
  let rows := RowState.start (rowGroups region layout.bits metadata.interlaced)
  let last ← decodePixels (start.rest.length + 1) start .start rows
  let rest := last.rest.drop last.left
  -- The guard of `moreData` does not reach the chunks behind the pixel data.
  finish (rest.length + 1) metadata.isAnimated last.metadata rest
  demand .badValue metadata.paletteFits

end ImageVault.Raster.Png
