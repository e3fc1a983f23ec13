import ImageVault.Raster.Field

/-!
# Markers and segments

A marker is a byte 255, possibly repeated, and a byte that is neither 0 nor 255. Most
markers are followed by a segment whose first two bytes give its length. Running out of
bytes and refusing what is there are different outcomes, since after the last pixel the
former is forgiven.
-/
namespace ImageVault.Raster.Jpeg

inductive Halt where
  | exhausted
  | refused
  deriving DecidableEq

/-- The next marker and the bytes after it; whatever stands in front of it is skipped. -/
def nextMarker (afterFill : Bool) : Bytes → Option (UInt8 × Bytes)
  | [] => none
  | byte :: rest =>
    if byte = 0xFF then nextMarker true rest
    else if afterFill && byte ≠ 0 then some (byte, rest)
    else nextMarker false rest

def requireMarker (content : Bytes) : Except Halt (UInt8 × Bytes) :=
  match nextMarker false content with
  | some found => .ok found
  | none => .error .exhausted

def readByte : Bytes → Except Halt (Nat × Bytes)
  | [] => .error .exhausted
  | byte :: rest => .ok (byte.toNat, rest)

def readWord (content : Bytes) : Except Halt (Nat × Bytes) := do
  let (high, rest) ← readByte content
  let (low, rest) ← readByte rest
  return (256 * high + low, rest)

def readBytes : Nat → Bytes → Except Halt (List Nat × Bytes)
  | 0, rest => .ok ([], rest)
  | count + 1, content => do
    let (first, rest) ← readByte content
    let (more, rest) ← readBytes count rest
    return (first :: more, rest)

/-- Skips a segment; its length counts its own two bytes. -/
def skipSegment (content : Bytes) : Except Halt Bytes := do
  let (length, rest) ← readWord content
  return rest.drop (length - 2)

def require (condition : Bool) : Except Halt Unit :=
  if condition then .ok () else .error .refused

/-- Markers that stand alone, without a segment. -/
def isRestart (marker : UInt8) : Bool :=
  0xD0 ≤ marker && marker ≤ 0xD7

def startOfImage : UInt8 := 0xD8

def endOfImage : UInt8 := 0xD9

def startOfScan : UInt8 := 0xDA

end ImageVault.Raster.Jpeg
