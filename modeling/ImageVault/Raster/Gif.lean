import ImageVault.Raster.Defect
import ImageVault.Raster.Extent
import ImageVault.Raster.Field

/-!
# Graphics interchange files

A screen descriptor and an optional palette are followed by extension blocks and the first
image. The extent of the file is that of the screen, enlarged to hold the image. The pixels
are dictionary codes of growing width, packed into length-prefixed blocks. Only how many
pixels a code stands for matters here: the image is whole once its codes have produced all
of its pixels, in whatever order the rows come.
-/
namespace ImageVault.Raster.Gif

/-- A data block: its bytes, cut short by the end of the file, or none for the terminator. -/
def readBlock : Bytes → Option Bytes × Bytes
  | [] => (none, [])
  | length :: rest =>
    if length = 0 then (none, rest)
    else (some (rest.take length.toNat), rest.drop length.toNat)

/-- Skips data blocks up to a terminator or an empty block. -/
def skipBlocks : Nat → Bytes → Bytes
  | 0, rest => rest
  | fuel + 1, content =>
    match readBlock content with
    | (none, rest) => rest
    | (some [], rest) => rest
    | (some _, rest) => skipBlocks fuel rest

/-- A control block holds a delay and, if it says so, a transparent index. -/
def checkControl : Bytes → Except Defect Unit
  | [] => .error .noSuchPlace
  | flags :: rest => do
    demand .noSuchPlace (flags % 2 = 0 || 3 ≤ rest.length)
    demand .shortField (2 ≤ rest.length)

def loopMark : Bytes :=
  "NETSCAPE2.0".toUTF8.toList

/-- The bytes after an extension whose label comes next. -/
def skipExtension : Bytes → Except Defect Bytes
  | [] => .error .noSuchPlace
  | label :: content =>
    let skip := fun rest => skipBlocks (rest.length + 1) rest
    match readBlock content with
    | (none, rest) => return if label = 254 then rest else skip rest
    | (some block, rest) => do
      if label = 249 then
        checkControl block
        return skip rest
      else if label = 254 then return if block.isEmpty then rest else skip rest
      else if label = 255 && loopMark.isPrefixOf block then return skip (readBlock rest).2
      else return skip rest

/-- The descriptor of an image and the bytes after its separator. -/
def findImage : Nat → Bytes → Except Defect Bytes
  | 0, _ => .error .endOfData
  | _ + 1, [] => .error .endOfData
  | fuel + 1, byte :: rest => do
    if byte = 0x3B then throw .endOfData
    else if byte = 0x2C then return rest
    else if byte = 0x21 then findImage fuel (← skipExtension rest)
    else findImage fuel rest

/-- The length of a palette that the flags announce. -/
def paletteLength (flags : Nat) : Nat :=
  if flags / 128 = 1 then 3 <<< (flags % 8 + 1) else 0

/-! ## Dictionary codes -/

structure Codes where
  /-- Width of literal codes in bits. -/
  literalBits : Nat
  /-- How many pixels each code stands for. -/
  lengths : Array Nat
  width : Nat
  next : Nat
  /-- The code before, if any since the last reset. -/
  previous : Option Nat

def tableLimit : Nat := 4096

def widthLimit : Nat := 12

namespace Codes

def clear (codes : Codes) : Nat :=
  1 <<< codes.literalBits

/-- An empty dictionary. -/
def reset (literalBits : Nat) : Codes :=
  { literalBits
    lengths := Array.replicate (max tableLimit (1 <<< literalBits)) 1
    width := literalBits + 1
    next := (1 <<< literalBits) + 2
    previous := none }

/-- How many pixels a code in use stands for. -/
def lengthOf (codes : Codes) (code : Nat) : Nat :=
  codes.lengths.getD code 1

/-- Remembers the pixels of the code before and one more, while there is space. -/
def extend (codes : Codes) (previous : Nat) : Codes :=
  if codes.next < tableLimit then
    { codes with
      lengths := codes.lengths.setIfInBounds codes.next (codes.lengthOf previous + 1)
      width :=
        if codes.next + 1 = 1 <<< codes.width && codes.width < widthLimit then codes.width + 1
        else codes.width
      next := codes.next + 1 }
  else codes

/-- The pixels of a code that is neither reset nor end. A code may be the one that is just
being defined, provided that the code before can be looked up. -/
def push (codes : Codes) (code : Nat) : Option (Nat × Codes) :=
  match codes.previous with
  | none => if code < codes.clear then some (1, { codes with previous := some code }) else none
  | some previous =>
    if codes.next < code then none
    else
      let pending := code = codes.next
      if pending && codes.clear ≤ previous && tableLimit ≤ previous then none
      else
        let produced :=
          if pending then codes.lengthOf previous + 1
          else if code < codes.clear then 1 else codes.lengthOf code
        some (produced, { codes.extend previous with previous := some code })

end Codes

/-- The reader: codes, bits not yet used, bytes left in the block, pixels still missing. -/
structure Reader where
  codes : Codes
  bits : Nat
  bitCount : Nat
  blockLeft : Nat
  missing : Nat

/-- What a pass over the bytes at hand ends with. -/
inductive Pass where
  | complete
  | broken
  /-- More bytes are wanted; those that are left are looked at again. -/
  | waiting (reader : Reader) (rest : Bytes) (count : Nat)

/-- Takes one code out of the bits at hand. -/
def Reader.takeCode (reader : Reader) : Nat × Reader :=
  let width := reader.codes.width
  (reader.bits % (1 <<< width),
    { reader with bits := reader.bits >>> width, bitCount := reader.bitCount - width })

/-- Decodes the `count` bytes at hand. A block is entered only when all of it is there, and
an end code interrupts the pass without ending the image. -/
def Reader.pass : Nat → Reader → Bytes → Nat → Pass
  | 0, reader, rest, count => .waiting reader rest count
  | fuel + 1, reader, rest, count =>
    if reader.bitCount < reader.codes.width then
      match rest with
      | [] => .waiting reader rest count
      | byte :: more =>
        if 0 < reader.blockLeft then
          pass fuel
            { reader with
              bits := reader.bits + (byte.toNat <<< reader.bitCount)
              bitCount := reader.bitCount + 8
              blockLeft := reader.blockLeft - 1 }
            more (count - 1)
        else if count < byte.toNat + 1 then .waiting reader rest count
        else pass fuel { reader with blockLeft := byte.toNat } more (count - 1)
    else
      let (code, reader) := reader.takeCode
      if code = reader.codes.clear then
        pass fuel { reader with codes := Codes.reset reader.codes.literalBits } rest count
      else if code = reader.codes.clear + 1 then .waiting reader rest count
      else
        match reader.codes.push code with
        | none => .broken
        | some (produced, codes) =>
          if reader.missing ≤ produced then .complete
          else pass fuel { reader with codes, missing := reader.missing - produced } rest count

/-- The bytes that are read at a time. -/
def feedSize : Nat := 65536

/-- Feeds the file piece by piece; the file must not end before the image does. -/
def feed : Nat → Reader → Bytes → Nat → Bytes → Bool
  | 0, _, _, _, _ => false
  | fuel + 1, reader, pending, count, file =>
    if file.isEmpty then false
    else
      let piece := file.take feedSize
      let count := count + piece.length
      match reader.pass (9 * count + 32) (pending ++ piece) count with
      | .complete => true
      | .broken => false
      | .waiting reader rest count => feed fuel reader rest count (file.drop feedSize)

/-- The extent of the file, that of its image, the width of literal codes in bits, and the
blocks of codes. -/
structure Picture where
  extent : Extent
  image : Extent
  literalBits : Nat
  blocks : Bytes

/-- Whether the codes produce all pixels. Literals wider than any code are refused before
there is a dictionary for them. -/
def Picture.isWhole (picture : Picture) : Bool :=
  picture.literalBits ≤ widthLimit && picture.image.hasPixels &&
    feed (picture.blocks.length / feedSize + 2)
      ⟨Codes.reset picture.literalBits, 0, 0, 0, picture.image.width * picture.image.height⟩
      [] 0 picture.blocks

def openFile (content : Bytes) : Except Defect Picture := do
  let screenWidth ← orDefect .shortField (little16? 6 content)
  let screenHeight ← orDefect .shortField (little16? 8 content)
  let flags ← orDefect .noSuchPlace (byteAt? 10 content)
  let _ ← orDefect .noSuchPlace (byteAt? 12 content)
  let rest := content.drop (13 + paletteLength flags)
  let image ← findImage (rest.length + 1) rest
  let left ← orDefect .shortField (little16? 0 image)
  let top ← orDefect .shortField (little16? 2 image)
  let width ← orDefect .shortField (little16? 4 image)
  let height ← orDefect .shortField (little16? 6 image)
  let flags ← orDefect .noSuchPlace (byteAt? 8 image)
  let codes := image.drop (9 + paletteLength flags)
  let literalBits ← orDefect .noSuchPlace (byteAt? 0 codes)
  return {
    extent := ⟨max screenWidth (left + width), max screenHeight (top + height)⟩
    image := ⟨width, height⟩
    literalBits
    blocks := codes.drop 1 }

def load (picture : Picture) : Except Defect Unit :=
  demand .broken picture.isWhole

end ImageVault.Raster.Gif
