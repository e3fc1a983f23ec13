import ImageVault.Raster.Jpeg.Segment

/-!
# Passing over a scan

A decoder that meets a marker inside a scan takes the missing bits for zeros, so a scan can
be passed over from marker to marker. With restart intervals, a numbered marker is due
before each interval but the first. A wrong marker is skipped if it is invalid or one of the
two numbers before the one that is due; it stays where it is if it is no restart or one of
the two numbers after; any other restart is taken for the one that is due.
-/
namespace ImageVault.Raster.Jpeg

/-- The marker that a decoder has run into but not consumed, and the bytes that follow. -/
structure ScanPosition where
  marker : Option UInt8
  rest : Bytes

/-- What to do about a marker where restart number `due` is due. -/
inductive Resync where
  | accept
  | skip
  | stay
  deriving DecidableEq

def resync (due : Nat) (marker : UInt8) : Resync :=
  if marker < 0xC0 then .skip
  else if !isRestart marker then .stay
  else
    let ahead := (marker.toNat - 0xD0 + 8 - due) % 8
    if ahead = 0 then .accept
    else if ahead = 1 || ahead = 2 then .stay
    else if ahead = 6 || ahead = 7 then .skip
    else .accept

/-- Looks for restart number `due` from a marker on. -/
def seekRestart : Nat → Nat → UInt8 → Bytes → Except Halt ScanPosition
  | 0, _, _, _ => .error .exhausted
  | fuel + 1, due, marker, rest =>
    match resync due marker with
    | .accept => .ok ⟨none, rest⟩
    | .stay => .ok ⟨some marker, rest⟩
    | .skip => do
      let (marker, rest) ← requireMarker rest
      seekRestart fuel due marker rest

/-- Passes the given number of restarts. -/
def passRestarts : Nat → Nat → ScanPosition → Except Halt ScanPosition
  | 0, _, position => .ok position
  | count + 1, due, position => do
    let (marker, rest) ←
      match position.marker with
      | some marker => .ok (marker, position.rest)
      | none => requireMarker position.rest
    passRestarts count ((due + 1) % 8) (← seekRestart (rest.length + 1) due marker rest)

/-- How many restarts a scan of some units has. -/
def restartCount (interval units : Nat) : Nat :=
  if interval = 0 then 0 else (units - 1) / interval

end ImageVault.Raster.Jpeg
