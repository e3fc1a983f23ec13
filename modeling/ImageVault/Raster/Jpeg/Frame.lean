import ImageVault.Raster.Jpeg.Tables

/-!
# Frames and scans

A frame header names the process and the components with their sampling factors. A scan
header selects components of the frame and the codes that they use. Both are checked before
the decoder starts; a progressive scan also for its band and its bit positions.
-/
namespace ImageVault.Raster.Jpeg

structure Component where
  id : Nat
  across : Nat
  down : Nat
  quantisation : Nat
  deriving DecidableEq

structure Frame where
  progressive : Bool
  arithmetic : Bool
  width : Nat
  height : Nat
  components : List Component

/-- A component of a scan, with the numbers of its codes. -/
structure ScanComponent where
  component : Component
  direct : Nat
  alternating : Nat

structure Scan where
  components : List ScanComponent
  first : Nat
  last : Nat
  high : Nat
  low : Nat

/-- The process that a frame marker stands for: progressive or not, arithmetic or not. -/
def process? (marker : UInt8) : Option (Bool × Bool) :=
  if marker = 0xC0 || marker = 0xC1 then some (false, false)
  else if marker = 0xC2 then some (true, false)
  else if marker = 0xC9 then some (false, true)
  else if marker = 0xCA then some (true, true)
  else none

def ceilDiv (n divisor : Nat) : Nat :=
  (n + divisor - 1) / divisor

namespace Frame

def readComponents : Nat → Bytes → Except Halt (List Component × Bytes)
  | 0, rest => .ok ([], rest)
  | count + 1, content => do
    let (id, rest) ← readByte content
    let (factors, rest) ← readByte rest
    let (quantisation, rest) ← readByte rest
    let (more, rest) ← readComponents count rest
    return (⟨id, factors / 16, factors % 16, quantisation⟩ :: more, rest)

/-- Reads a frame header, provided that there was none before. -/
def read (progressive arithmetic isFirst : Bool) (content : Bytes) :
    Except Halt (Frame × Bytes) := do
  let (length, rest) ← readWord content
  let (_, rest) ← readByte rest
  let (height, rest) ← readWord rest
  let (width, rest) ← readWord rest
  let (count, rest) ← readByte rest
  require (isFirst && 0 < height && 0 < width && 0 < count && length = 3 * count + 8)
  let (components, rest) ← readComponents count rest
  return (⟨progressive, arithmetic, width, height, components⟩, rest)

def sideLimit : Nat := 65500

def factorLimit : Nat := 4

def mostAcross (frame : Frame) : Nat :=
  frame.components.foldl (fun most component => max most component.across) 1

def mostDown (frame : Frame) : Nat :=
  frame.components.foldl (fun most component => max most component.down) 1

def isFactor (n : Nat) : Bool :=
  0 < n && n ≤ factorLimit

/-- Sides and sampling factors have upper bounds, and each component is enlarged by whole
factors. -/
def isDecodable (frame : Frame) : Bool :=
  frame.width ≤ sideLimit && frame.height ≤ sideLimit
    && frame.components.all (fun component => isFactor component.across && isFactor component.down)
    && frame.components.all fun component =>
      frame.mostAcross % component.across = 0 && frame.mostDown % component.down = 0

end Frame

namespace Scan

/-- Selects components by their identifiers. The component at position `place` of a scan
stands at that position or later in the frame, and none is selected twice. -/
def readComponents (frame : Frame) (chosen : List Component) (place : Nat) :
    Nat → Bytes → Except Halt (List ScanComponent × Bytes)
  | 0, rest => .ok ([], rest)
  | count + 1, content => do
    let (id, rest) ← readByte content
    let (codes, rest) ← readByte rest
    match (frame.components.drop place).find? (·.id = id) with
    | none => throw .refused
    | some component =>
      require (!chosen.contains component)
      let (more, rest) ←
        readComponents frame (component :: chosen) (place + 1) count rest
      return (⟨component, codes / 16, codes % 16⟩ :: more, rest)

def read (frame : Frame) (content : Bytes) : Except Halt (Scan × Bytes) := do
  let (length, rest) ← readWord content
  let (count, rest) ← readByte rest
  require (length = 2 * count + 6 && 1 ≤ count && count ≤ 4)
  let (components, rest) ← readComponents frame [] 0 count rest
  let (first, rest) ← readByte rest
  let (last, rest) ← readByte rest
  let (bits, rest) ← readByte rest
  return (⟨components, first, last, bits / 16, bits % 16⟩, rest)

/-- Blocks of all components in one unit of an interleaved scan. -/
def blocksPerUnit (scan : Scan) : Nat :=
  if scan.components.length = 1 then 1
  else scan.components.foldl
    (fun total chosen => total + chosen.component.across * chosen.component.down) 0

/-- The number of units: blocks of the one component, or groups that cover all of them. -/
def unitCount (scan : Scan) (frame : Frame) : Nat :=
  let unitWidth := 8 * frame.mostAcross
  let unitHeight := 8 * frame.mostDown
  match scan.components with
  | [chosen] =>
    ceilDiv (frame.width * chosen.component.across) unitWidth
      * ceilDiv (frame.height * chosen.component.down) unitHeight
  | _ => ceilDiv frame.width unitWidth * ceilDiv frame.height unitHeight

/-- A progressive scan covers the block means, or a band of waves of one component; a
refinement adds exactly one bit. -/
def isProgression (scan : Scan) : Bool :=
  let band :=
    if scan.first = 0 then scan.last = 0
    else scan.first ≤ scan.last && scan.last < 64 && scan.components.length = 1
  let refinement := scan.high = 0 || scan.low + 1 = scan.high
  band && refinement && scan.low ≤ 13

/-- Whether the codes that a scan uses are there. A refinement of means needs none, and
arithmetic coding needs none at all. -/
def codesFit (scan : Scan) (frame : Frame) (tables : Tables) : Bool :=
  frame.arithmetic || scan.components.all fun chosen =>
    let direct := (tables.usable? true chosen.direct).isSome
    let alternating := (tables.usable? false chosen.alternating).isSome
    if !frame.progressive then direct && alternating
    else if scan.first = 0 then scan.high ≠ 0 || direct
    else alternating

def unitLimit : Nat := 10

/-- Whether the decoder can start on a scan. -/
def isDecodable (scan : Scan) (frame : Frame) (tables : Tables) : Bool :=
  scan.blocksPerUnit ≤ unitLimit
    && scan.components.all (fun chosen =>
      tables.quantisation.contains chosen.component.quantisation)
    && (!frame.progressive || scan.isProgression)
    && scan.codesFit frame tables

/-- Whether the image needs more scans than this first one. -/
def isPartial (scan : Scan) (frame : Frame) : Bool :=
  frame.progressive || scan.components.length < frame.components.length

end Scan

end ImageVault.Raster.Jpeg
