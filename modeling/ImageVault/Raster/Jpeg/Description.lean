import ImageVault.Raster.Defect
import ImageVault.Raster.Extent
import ImageVault.Raster.Jpeg.Segment

/-!
# The description in front of the first scan

Before anything is decoded, the segments up to the first scan are walked once: each has to
be there as a whole, the frame has to have eight-bit samples in one, three or four layers,
quantisation tables have to be whole, and application segments of known kinds have to hold
their fixed fields. The last frame header gives the extent.

Left out are segments that list several pictures in one file, which make it a file of a format
of its own: they are passed over like those of unknown kinds, and the first picture counts.
-/
namespace ImageVault.Raster.Jpeg

/-- What the walk has found so far. -/
structure Description where
  extent : Option Extent
  /-- Colour profile fragments not yet assembled. -/
  fragments : List Bytes

namespace Description

/-- The data of a segment, all of it or none. -/
def takeSegment (content : Bytes) : Except Defect (Bytes × Bytes) := do
  let length ← orDefect .shortField (big16? 0 content)
  let body := content.drop 2
  let data ← orDefect .broken (field? 0 (length - 2) body)
  return (data, body.drop (length - 2))

/-- Lexicographic order of bytes, the shorter of two equal beginnings first. -/
def precedes : Bytes → Bytes → Bool
  | [], _ => true
  | _ :: _, [] => false
  | x :: xs, y :: ys => x < y || (x == y && precedes xs ys)

/-- The first fragment in order has to be long enough to give the number of fragments. -/
def fragmentsFit (fragments : List Bytes) : Bool :=
  match fragments.foldl (fun (least : Option Bytes) fragment =>
      match least with
      | none => some fragment
      | some least => some (if precedes least fragment then least else fragment)) none with
  | none => true
  | some least => 14 ≤ least.length

def readFrame (description : Description) (data : Bytes) : Except Defect Description := do
  let height ← orDefect .shortField (big16? 1 data)
  let width ← orDefect .shortField (big16? 3 data)
  let precision ← orDefect .noSuchPlace (byteAt? 0 data)
  demand .malformed (precision = 8)
  let layers ← orDefect .noSuchPlace (byteAt? 5 data)
  demand .malformed (layers = 1 || layers = 3 || layers = 4)
  demand .noSuchPlace (fragmentsFit description.fragments)
  demand .noSuchPlace ((data.length - 6) % 3 = 0)
  return ⟨some ⟨width, height⟩, []⟩

/-- Tables of 64 values in one or two bytes each, after a byte that says which. -/
def quantisationFits : Nat → Bytes → Bool
  | _, [] => true
  | 0, _ => false
  | fuel + 1, head :: rest =>
    let length := if head < 16 then 64 else 128
    length ≤ rest.length && quantisationFits fuel (rest.drop length)

def resourceMark : Bytes :=
  "8BIM".toUTF8.toList

/-- Image resources: a mark, a code, a padded name and padded data of given length. The
resolution has fields of its own. A name whose length is missing is a defect; anything else
that is missing ends the list. Positions are even or odd from the start of the segment. -/
def resourcesFit : Nat → Nat → Bytes → Bool
  | 0, _, _ => true
  | fuel + 1, offset, data =>
    if (data.drop offset).take 4 ≠ resourceMark then true
    else
      match big16? (offset + 4) data with
      | none => true
      | some code =>
        match byteAt? (offset + 6) data with
        | none => false
        | some nameLength =>
          let afterName := offset + 7 + nameLength
          let afterName := afterName + afterName % 2
          match big32? afterName data with
          | none => true
          | some size =>
            let start := afterName + 4
            if code = 0x03ED && min size (data.length - start) < 14 then true
            else
              let stop := start + size
              resourcesFit fuel (stop + stop % 2) data

def readApplication (description : Description) (marker : UInt8) (data : Bytes) :
    Except Defect Description := do
  let startsWith := fun (mark : String) => mark.toUTF8.toList.isPrefixOf data
  if marker = 0xE0 && startsWith "JFIF" then
    demand .shortField (7 ≤ data.length)
    return description
  else if marker = 0xEE && startsWith "Adobe" then
    demand .shortField (7 ≤ data.length)
    return description
  else if marker = 0xE2 && startsWith "ICC_PROFILE\x00" then
    return { description with fragments := data :: description.fragments }
  else if marker = 0xED && startsWith "Photoshop 3.0\x00" then
    demand .noSuchPlace (resourcesFit (data.length + 1) 14 data)
    return description
  else return description

/-- Frame headers of all kinds, the hierarchical one included. -/
def isFrame (marker : UInt8) : Bool :=
  marker = 0xDE
    || (0xC0 ≤ marker && marker ≤ 0xCF && marker ≠ 0xC4 && marker ≠ 0xC8 && marker ≠ 0xCC)

/-- Markers without a segment. -/
def standsAlone (marker : UInt8) : Bool :=
  marker = 0xC8 || (0xD0 ≤ marker && marker ≤ 0xD9) || (0xF0 ≤ marker && marker ≤ 0xFD)

/-- Walks the segments up to and including the header of the first scan. -/
def walk : Nat → Description → Bytes → Except Defect Description
  | 0, _, _ => .error .noSuchPlace
  | fuel + 1, description, content => do
    let (marker, rest) ← orDefect .noSuchPlace (nextMarker false content)
    if marker < 0xC0 then throw .malformed
    else if standsAlone marker then walk fuel description rest
    else
      let (data, rest) ← takeSegment rest
      if marker = startOfScan then return description
      else if isFrame marker then walk fuel (← description.readFrame data) rest
      else if marker = 0xDB then
        demand .malformed (quantisationFits (data.length + 1) data)
        walk fuel description rest
      else if 0xE0 ≤ marker && marker ≤ 0xEF then
        walk fuel (← description.readApplication marker data) rest
      else walk fuel description rest

/-- The extent that the walk finds. A file without a frame has none. -/
def extentOf (content : Bytes) : Except Defect Extent := do
  let description ← walk (content.length + 1) ⟨none, []⟩ (content.drop 2)
  orDefect .malformed description.extent

end Description

end ImageVault.Raster.Jpeg
