import ImageVault.Raster.Jpeg.Description
import ImageVault.Raster.Jpeg.Entropy
import ImageVault.Raster.Jpeg.Restart

/-!
# Joint photographic images

A file is a sequence of segments and scans. An image that its first scan completes is
decoded as that scan comes, and what follows it may break off but may not be wrong. Any
other image needs all of its scans, up to the end marker.
-/
namespace ImageVault.Raster.Jpeg

/-- What the segments so far have established. -/
structure Decoder where
  tables : Tables
  restartInterval : Nat
  frame : Option Frame
  /-- Whether a scan has started. -/
  scanning : Bool

namespace Decoder

def start : Decoder :=
  ⟨.empty, 0, none, false⟩

/-- The state at the start of another image in the file, which keeps the tables. -/
def restart (decoder : Decoder) : Decoder :=
  { start with tables := decoder.tables }

def isApplicationOrComment (marker : UInt8) : Bool :=
  (0xE0 ≤ marker && marker ≤ 0xEF) || marker = 0xFE

/-- Reads the segment of a marker other than those of scans and of the image's end. -/
def readSegment (decoder : Decoder) (marker : UInt8) (content : Bytes) :
    Except Halt (Decoder × Bytes) := do
  if marker = 0xC4 then
    let (length, rest) ← Tables.readLength content
    let (tables, rest) ← Tables.readEntropy (length + 1) length decoder.tables rest
    return ({ decoder with tables }, rest)
  else if marker = 0xDB then
    let (length, rest) ← Tables.readLength content
    let (tables, rest) ← Tables.readQuantisation (length + 1) length decoder.tables rest
    return ({ decoder with tables }, rest)
  else if marker = 0xCC then
    let (length, rest) ← Tables.readLength content
    return (decoder, ← Tables.readConditioning (length + 1) length rest)
  else if marker = 0xDD then
    let (length, rest) ← readWord content
    require (length = 4)
    let (interval, rest) ← readWord rest
    return ({ decoder with restartInterval := interval }, rest)
  else if isApplicationOrComment marker || marker = 0xDC then
    return (decoder, ← skipSegment content)
  else if isRestart marker || marker = 0x01 then
    return (decoder, content)
  else
    match process? marker with
    | none => throw .refused
    | some (progressive, arithmetic) =>
      let (frame, rest) ← Frame.read progressive arithmetic decoder.frame.isNone content
      return ({ decoder with frame := some frame }, rest)

/-- What is left of a file after its pixels: segments up to the end marker. -/
def finish : Nat → Decoder → Bytes → Except Halt Unit
  | 0, _, _ => .error .exhausted
  | fuel + 1, decoder, content => do
    let (marker, rest) ← requireMarker content
    if marker = endOfImage then return
    else if marker = startOfScan then throw .refused
    else
      let (decoder, rest) ← decoder.readSegment marker rest
      finish fuel decoder rest

/-- Puts a marker back in front of the bytes that follow it. -/
def ScanPosition.bytes (position : ScanPosition) : Bytes :=
  match position.marker with
  | some marker => 0xFF :: marker :: position.rest
  | none => position.rest

/-- The one scan of an image. If no marker follows, its units have to be there. -/
def readWhole (decoder : Decoder) (frame : Frame) (scan : Scan) (content : Bytes) : Bool :=
  let units := scan.unitCount frame
  let restarts := restartCount decoder.restartInterval units
  match passRestarts restarts 0 ⟨none, content⟩ with
  | .error _ => false
  | .ok position =>
    let rest := ScanPosition.bytes position
    match nextMarker false rest with
    | some _ =>
      match finish (rest.length + 1) decoder rest with
      | .ok _ => true
      | .error .exhausted => true
      | .error .refused => false
    | none =>
      let left := units - restarts * decoder.restartInterval
      !frame.arithmetic && (unitCodes? scan decoder.tables).any fun codes =>
        holdsUnits codes (decoder.restartInterval ≠ 0) left ⟨0, 0, rest, rest.length⟩

/-- Reads segments and scans up to the end marker, or the one scan of a whole image. -/
def read : Nat → Decoder → Bytes → Except Halt Unit
  | 0, _, _ => .error .exhausted
  | fuel + 1, decoder, content => do
    let (marker, rest) ← requireMarker content
    if marker = endOfImage then
      if decoder.scanning then return
      require decoder.frame.isNone
      match rest with
      | 0xFF :: 0xD8 :: rest => read fuel decoder.restart rest
      | [] => throw .exhausted
      | _ => throw .refused
    else if marker = startOfScan then
      match decoder.frame with
      | none => throw .refused
      | some frame =>
        let (scan, rest) ← Scan.read frame rest
        require (decoder.scanning || frame.isDecodable)
        let isFirst := !decoder.scanning
        let tables :=
          if isFirst && !frame.progressive && !frame.arithmetic then decoder.tables.withUsual
          else decoder.tables
        let decoder := { decoder with tables, scanning := true }
        require (scan.isDecodable frame tables)
        if isFirst && !scan.isPartial frame then require (decoder.readWhole frame scan rest)
        else
          let restarts := restartCount decoder.restartInterval (scan.unitCount frame)
          let position ← passRestarts restarts 0 ⟨none, rest⟩
          read fuel decoder (ScanPosition.bytes position)
    else
      let (decoder, rest) ← decoder.readSegment marker rest
      read fuel decoder rest

end Decoder

/-- Whether the whole file decodes; its first two bytes are known. -/
def isWhole (content : Bytes) : Bool :=
  match Decoder.read (content.length + 1) .start (content.drop 2) with
  | .ok _ => true
  | .error _ => false

def openFile (content : Bytes) : Except Defect Extent :=
  Description.extentOf content

def load (content : Bytes) : Except Defect Unit :=
  demand .broken (isWhole content)

end ImageVault.Raster.Jpeg
