import ImageVault.Raster.Jpeg.Frame

/-!
# Units that no marker ends

Where no marker follows, whether a scan is whole depends on how far its decoder reads. The
decoder keeps up to 64 bits at hand. It asks for eight bits before each word and for the
bits that a value needs; when they are not there it refills to at least 57, and it does not
continue with fewer. As long as many bytes are left it works in a quicker way, six bytes at
a time, which it gives up for a unit in which a byte 255 is repeated.
-/
namespace ImageVault.Raster.Jpeg

/-- Bits at hand, the bytes after them, and how many these are. -/
structure BitWindow where
  held : Nat
  count : Nat
  rest : Bytes
  left : Nat

/-- How the window is refilled. -/
inductive Pace where
  | careful
  | quick
  deriving DecidableEq

namespace BitWindow

/-- Bytes 255 in front, and the bytes after them. -/
def skipFill (skipped : Nat) : Bytes → Nat × Bytes
  | [] => (skipped, [])
  | byte :: rest => if byte = 0xFF then skipFill (skipped + 1) rest else (skipped, byte :: rest)

/-- Takes one byte of data into the window. A byte 255 is written with a zero after it. -/
def takeByte (pace : Pace) (window : BitWindow) : Option BitWindow :=
  match window.rest with
  | [] => none
  | byte :: rest =>
    let held := window.held * 256 + byte.toNat
    if byte ≠ 0xFF then some ⟨held, window.count + 8, rest, window.left - 1⟩
    else
      match skipFill 0 rest with
      | (_, []) => none
      | (fill, _ :: after) =>
        if pace = .quick && fill ≠ 0 then none
        else some ⟨held, window.count + 8, after, window.left - fill - 2⟩

def refillGoal : Nat := 57

/-- Takes bytes until the goal is reached. -/
def refill : Nat → BitWindow → Option BitWindow
  | 0, window => some window
  | fuel + 1, window =>
    if refillGoal ≤ window.count then some window
    else (window.takeByte .careful).bind (refill fuel)

def takeBytes (pace : Pace) : Nat → BitWindow → Option BitWindow
  | 0, window => some window
  | count + 1, window => (window.takeByte pace).bind (takeBytes pace count)

/-- Makes bits ready before a word or a value. -/
def ready (pace : Pace) (wanted : Nat) (window : BitWindow) : Option BitWindow :=
  match pace with
  | .careful => if window.count < wanted then refill 8 window else some window
  | .quick => if window.count ≤ 16 then takeBytes .quick 6 window else some window

/-- Makes one more bit ready inside a long word. -/
def readyMore (pace : Pace) (wanted : Nat) (window : BitWindow) : Option BitWindow :=
  match pace with
  | .careful => window.ready .careful wanted
  | .quick => some window

/-- The first bits at hand, without consuming them. -/
def peek (count : Nat) (window : BitWindow) : Nat :=
  window.held >>> (window.count - count)

def drop (count : Nat) (window : BitWindow) : BitWindow :=
  { window with
    held := window.held % (1 <<< (window.count - count))
    count := window.count - count }

end BitWindow

namespace EntropyTable

/-- The symbol of a word of the given length, where `first` is the first word of that
length and `symbols` starts with its symbol; the state for the next length otherwise. -/
def match? (count first word : Nat) (symbols : List Nat) : Option Nat :=
  if first ≤ word && word < first + count then symbols[word - first]? else none

/-- Looks for a word among the first eight bits; gives symbol and length. -/
def shortWord? (bits : Nat) : Nat → Nat → List Nat → List Nat → Option (Nat × Nat)
  | _, _, [], _ => none
  | length, first, count :: counts, symbols =>
    if 8 < length then none
    else
      match match? count first (bits >>> (8 - length)) symbols with
      | some symbol => some (symbol, length)
      | none => shortWord? bits (length + 1) (2 * (first + count)) counts (symbols.drop count)

/-- The first word and the symbols from a length on. -/
def fromLength : Nat → Nat → List Nat → List Nat → Nat × List Nat × List Nat
  | 0, first, counts, symbols => (first, counts, symbols)
  | _ + 1, first, [], symbols => (first, [], symbols)
  | skip + 1, first, count :: counts, symbols =>
    fromLength skip (2 * (first + count)) counts (symbols.drop count)

/-- Reads a long word bit by bit. A word of seventeen bits stands for zero. -/
def longWord (pace : Pace) : Nat → Nat → List Nat → List Nat → BitWindow →
    Option (Nat × BitWindow)
  | _, _, [], _, window => some (0, window)
  | word, first, count :: counts, symbols, window =>
    match match? count first word symbols with
    | some symbol => some (symbol, window)
    | none => do
      let window ← window.readyMore pace 1
      longWord pace (2 * word + window.peek 1) (2 * (first + count)) counts (symbols.drop count)
        (window.drop 1)

def decode (pace : Pace) (table : EntropyTable) (window : BitWindow) :
    Option (Nat × BitWindow) := do
  let window ← window.ready pace 8
  match shortWord? (window.peek 8) 1 0 table.counts table.symbols with
  | some (symbol, length) => return (symbol, window.drop length)
  | none =>
    let window ← window.readyMore pace 9
    let (first, counts, symbols) := fromLength 8 0 table.counts table.symbols
    longWord pace (window.peek 9) first counts symbols (window.drop 9)

/-- Skips the bits of a value. -/
def skipValue (pace : Pace) (width : Nat) (window : BitWindow) : Option BitWindow :=
  if width = 0 then some window else (window.ready pace width).map (·.drop width)

/-- Reads the waves of a block from position `index` on. -/
def skipWaves (pace : Pace) (table : EntropyTable) : Nat → Nat → BitWindow → Option BitWindow
  | 0, _, window => some window
  | fuel + 1, index, window =>
    if 64 ≤ index then some window
    else do
      let (symbol, window) ← table.decode pace window
      let run := symbol / 16
      let width := symbol % 16
      if width = 0 then
        if run = 15 then skipWaves pace table fuel (index + 16) window else some window
      else skipWaves pace table fuel (index + run + 1) (← skipValue pace width window)

end EntropyTable

/-- The codes of the blocks in one unit. -/
abbrev UnitCodes := List (EntropyTable × EntropyTable)

def skipUnit (pace : Pace) : UnitCodes → BitWindow → Option BitWindow
  | [], window => some window
  | (direct, alternating) :: blocks, window => do
    let (width, window) ← direct.decode pace window
    let window ← EntropyTable.skipValue pace width window
    skipUnit pace blocks (← EntropyTable.skipWaves pace alternating 64 1 window)

/-- Bytes per block above which the quick way is taken. -/
def quickReserve : Nat := 512

/-- Whether the bytes hold all units; `restarts` rules the quick way out. -/
def holdsUnits (codes : UnitCodes) (restarts : Bool) : Nat → BitWindow → Bool
  | 0, _ => true
  | count + 1, window =>
    let quick :=
      if !restarts && quickReserve * codes.length ≤ window.left then skipUnit .quick codes window
      else none
    match quick.or (skipUnit .careful codes window) with
    | some window => holdsUnits codes restarts count window
    | none => false

/-- The codes of a unit, provided that all of them are there. -/
def unitCodes? (scan : Scan) (tables : Tables) : Option UnitCodes := do
  let blocks ← scan.components.mapM fun chosen => do
    let direct ← tables.usable? true chosen.direct
    let alternating ← tables.usable? false chosen.alternating
    let count :=
      if scan.components.length = 1 then 1
      else chosen.component.across * chosen.component.down
    return List.replicate count (direct, alternating)
  return blocks.flatten

end ImageVault.Raster.Jpeg
