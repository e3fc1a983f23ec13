import ImageVault.Checksum.Adler32
import ImageVault.Raster.Field

/-!
# Inflating compressed streams

A compressed stream is a header of two bytes, a sequence of blocks and a checksum. The
machine here is driven from both sides: input comes in pieces, and output goes into a room
of limited size. A run stops when output is wanted that has no room, when a step needs more
input than is there, at the end of the stream, or at the first defect. A step that lacks
input leaves the reader where the step began, so it is taken again once there is more.

Once the room is full the machine still takes the steps that write nothing. Defects that
follow the last byte of a row are therefore seen with that row, if their input is there.
-/
namespace ImageVault.Raster

/-! ## Reading bits -/

/-- Bits are taken from the low end of each byte; fewer than eight are held back. -/
structure BitReader where
  held : Nat
  count : Nat
  rest : Bytes

/-- Why a step cannot be taken. -/
inductive Obstacle where
  | starved
  | broken
  deriving DecidableEq

namespace BitReader

def bits : Nat → BitReader → Except Obstacle (Nat × BitReader)
  | wanted, ⟨held, count, rest⟩ =>
    if wanted ≤ count then
      .ok (held % (1 <<< wanted), ⟨held >>> wanted, count - wanted, rest⟩)
    else
      let missing := (wanted - count + 7) / 8
      let taken := rest.take missing
      if taken.length < missing then .error .starved
      else
        let held := held + (littleEndian taken <<< count)
        let count := count + 8 * missing
        .ok (held % (1 <<< wanted), ⟨held >>> wanted, count - wanted, rest.drop missing⟩)

/-- Drops the bits up to the next byte. -/
def align (reader : BitReader) : BitReader :=
  ⟨0, 0, reader.rest⟩

end BitReader

/-! ## Codes -/

/-- A canonical code: how many words each length from one up has, and all symbols, ordered
by word. -/
structure CodeTable where
  counts : List Nat
  symbols : Array Nat

namespace CodeTable

def lengthLimit : Nat := 15

/-- The words left over at the greatest length; negative if there are too many words. -/
def slack (counts : List Nat) : Int :=
  counts.foldl (fun (left : Int) (count : Nat) => 2 * left - count) 1

/-- The canonical code of the given word lengths. It must not be overfull, and it may be
incomplete only if it has a single word of length one, or none at all, and `tolerant`. -/
def ofLengths? (tolerant : Bool) (lengths : List Nat) : Option CodeTable :=
  let sizes := (List.range lengthLimit).map (· + 1)
  let counts := sizes.map lengths.count
  let symbols := sizes.flatMap fun size =>
    (lengths.zipIdx.filter fun entry => entry.1 == size).map (·.2)
  let longest := lengths.foldl max 0
  let left := slack counts
  if left < 0 || (left > 0 && longest ≠ 0 && !(tolerant && longest = 1)) then none
  else some ⟨counts, symbols.toArray⟩

/-- Follows the code bit by bit: `code` is the word so far, `first` the first word of the
current length, `index` the place of its symbol. -/
def decodeFrom (symbols : Array Nat) :
    List Nat → (code first index : Nat) → BitReader → Except Obstacle (Nat × BitReader)
  | [], _, _, _, _ => .error .broken
  | count :: counts, code, first, index, reader => do
    let (bit, reader) ← reader.bits 1
    let code := 2 * code + bit
    let first := 2 * first
    if code < first + count then
      match symbols[index + (code - first)]? with
      | some symbol => .ok (symbol, reader)
      | none => .error .broken
    else if symbols.size ≤ index + count then .error .broken
    else decodeFrom symbols counts code (first + count) (index + count) reader

/-- No further bits are asked for once no word can match. -/
def decode (table : CodeTable) (reader : BitReader) : Except Obstacle (Nat × BitReader) :=
  decodeFrom table.symbols table.counts 0 0 0 reader

end CodeTable

/-! ## Block headers -/

def fixedLiterals : List Nat :=
  List.replicate 144 8 ++ List.replicate 112 9 ++ List.replicate 24 7 ++ List.replicate 8 8

def fixedDistances : List Nat :=
  List.replicate 32 5

/-- The order in which a dynamic block gives the word lengths of its first code. -/
def metaOrder : List Nat :=
  [16, 17, 18, 0, 8, 7, 9, 6, 10, 5, 11, 4, 12, 3, 13, 2, 14, 1, 15]

/-- Word lengths in threes of bits, set into their places. -/
def readMetaLengths : List Nat → Nat → List Nat → BitReader →
    Except Obstacle (List Nat × BitReader)
  | [], _, lengths, reader => .ok (lengths, reader)
  | _, 0, lengths, reader => .ok (lengths, reader)
  | place :: order, count + 1, lengths, reader => do
    let (length, reader) ← reader.bits 3
    readMetaLengths order count (lengths.set place length) reader

/-- Word lengths written in the first code, with three ways to repeat; reversed. -/
def readLengths (table : CodeTable) (wanted : Nat) : Nat → List Nat → Nat → BitReader →
    Except Obstacle (List Nat × BitReader)
  | 0, _, _, _ => .error .broken
  | fuel + 1, lengths, known, reader =>
    if wanted ≤ known then .ok (lengths, reader)
    else do
      let (symbol, reader) ← table.decode reader
      if symbol < 16 then readLengths table wanted fuel (symbol :: lengths) (known + 1) reader
      else
        let (width, least) :=
          if symbol = 16 then (2, 3) else if symbol = 17 then (3, 3) else (7, 11)
        let (extra, reader) ← reader.bits width
        let repeats := least + extra
        let value := if symbol = 16 then lengths.head? else some 0
        match value with
        | none => .error .broken
        | some value =>
          if wanted < known + repeats then .error .broken
          else
            readLengths table wanted fuel (List.replicate repeats value ++ lengths)
              (known + repeats) reader

def orBroken {α : Type} : Option α → Except Obstacle α
  | some value => .ok value
  | none => .error .broken

/-- The two codes of a dynamic block; the end of the block must have a word. An empty first
code spells nothing but zeros, one bit each, so that it leaves the end without a word. -/
def readCodes (reader : BitReader) : Except Obstacle ((CodeTable × CodeTable) × BitReader) := do
  let (literals, reader) ← reader.bits 5
  let (distances, reader) ← reader.bits 5
  let (metas, reader) ← reader.bits 4
  let literals := literals + 257
  let distances := distances + 1
  if 286 < literals || 30 < distances then throw .broken
  let (lengths, reader) ← readMetaLengths metaOrder (metas + 4) (List.replicate 19 0) reader
  let table ← orBroken (CodeTable.ofLengths? false lengths)
  let wanted := literals + distances
  if table.symbols.isEmpty then
    let _ ← reader.bits wanted
    throw .broken
  let (reversed, reader) ← readLengths table wanted (wanted + 1) [] 0 reader
  let lengths := reversed.reverse
  if lengths[256]? = some 0 then throw .broken
  let literalTable ← orBroken (CodeTable.ofLengths? true (lengths.take literals))
  let distanceTable ← orBroken (CodeTable.ofLengths? true (lengths.drop literals))
  return ((literalTable, distanceTable), reader)

/-! ## Output -/

/-- The bytes written, or at least the last 32768 of them, how many older ones were
forgotten, and the checksum of all. -/
structure Inflated where
  recent : ByteArray
  forgotten : Nat
  sums : Checksum.Adler32

namespace Inflated

def empty : Inflated :=
  ⟨ByteArray.empty, 0, .start⟩

def written (output : Inflated) : Nat :=
  output.forgotten + output.recent.size

def push (output : Inflated) (byte : UInt8) : Inflated :=
  ⟨output.recent.push byte, output.forgotten, output.sums.push byte⟩

def window : Nat := 32768

/-- Forgets what no reference can reach, once there is much of it. -/
def trim (output : Inflated) : Inflated :=
  if 64 * window ≤ output.recent.size then
    let surplus := output.recent.size - window
    { output with
      recent := output.recent.extract surplus output.recent.size
      forgotten := output.forgotten + surplus }
  else output

/-- The byte written `distance` bytes ago. -/
def back (output : Inflated) (distance : Nat) : UInt8 :=
  output.recent[output.recent.size - distance]?.getD 0

def copyBack (distance : Nat) : Nat → Inflated → Inflated
  | 0, output => output
  | count + 1, output => copyBack distance count (output.push (output.back distance))

end Inflated

/-! ## The machine -/

inductive Stage where
  | start
  | block
  | stored (left : Nat)
  | coded (literals distances : CodeTable)
  | checksum
  | finished

/-- Output that is decided but not yet written. -/
inductive Pending where
  | nothing
  | literal (byte : UInt8)
  | copy (length distance : Nat)

structure Inflater where
  reader : BitReader
  stage : Stage
  lastBlock : Bool
  pending : Pending
  output : Inflated

/-- Why a run stops. -/
inductive Stop where
  | full
  | starved
  | finished
  | broken
  deriving DecidableEq

def Obstacle.stop : Obstacle → Stop
  | .starved => .starved
  | .broken => .broken

namespace Inflater

def start : Inflater :=
  ⟨⟨0, 0, []⟩, .start, false, .nothing, .empty⟩

def lengthBases : List (Nat × Nat) :=
  [(3, 0), (4, 0), (5, 0), (6, 0), (7, 0), (8, 0), (9, 0), (10, 0), (11, 1), (13, 1), (15, 1),
   (17, 1), (19, 2), (23, 2), (27, 2), (31, 2), (35, 3), (43, 3), (51, 3), (59, 3), (67, 4),
   (83, 4), (99, 4), (115, 4), (131, 5), (163, 5), (195, 5), (227, 5), (258, 0)]

def distanceBases : List (Nat × Nat) :=
  [(1, 0), (2, 0), (3, 0), (4, 0), (5, 1), (7, 1), (9, 2), (13, 2), (17, 3), (25, 3), (33, 4),
   (49, 4), (65, 5), (97, 5), (129, 6), (193, 6), (257, 7), (385, 7), (513, 8), (769, 8),
   (1025, 9), (1537, 9), (2049, 10), (3073, 10), (4097, 11), (6145, 11), (8193, 12),
   (12289, 12), (16385, 13), (24577, 13)]

/-- A base value and the extra bits to be added. -/
def readBased (bases : List (Nat × Nat)) (index : Nat) (reader : BitReader) :
    Except Obstacle (Nat × BitReader) :=
  match bases[index]? with
  | none => .error .broken
  | some (base, width) => do
    let (extra, reader) ← reader.bits width
    return (base + extra, reader)

/-- The stage after a block. -/
def afterBlock (lastBlock : Bool) : Stage :=
  if lastBlock then .checksum else .block

/-- Method, window and check bits of the header; preset dictionaries are not supported. -/
def stepStart (machine : Inflater) : Except Obstacle Inflater := do
  let (method, reader) ← machine.reader.bits 8
  let (flags, reader) ← reader.bits 8
  if (256 * method + flags) % 31 ≠ 0 || method % 16 ≠ 8 || 7 < method / 16
      || flags / 32 % 2 = 1 then
    throw .broken
  return { machine with reader, stage := .block }

def stepBlock (machine : Inflater) : Except Obstacle Inflater := do
  let (last, reader) ← machine.reader.bits 1
  let (kind, reader) ← reader.bits 2
  let machine := { machine with lastBlock := last == 1 }
  if kind = 0 then
    let (length, reader) ← reader.align.bits 16
    let (complement, reader) ← reader.bits 16
    if length + complement ≠ 65535 then throw .broken
    return { machine with reader, stage := .stored length }
  else if kind = 1 then
    let literals ← orBroken (CodeTable.ofLengths? true fixedLiterals)
    let distances ← orBroken (CodeTable.ofLengths? true fixedDistances)
    return { machine with reader, stage := .coded literals distances }
  else if kind = 2 then
    let ((literals, distances), reader) ← readCodes reader
    return { machine with reader, stage := .coded literals distances }
  else throw .broken

/-- A literal, a reference back, or the end of the block. -/
def stepCoded (literals distances : CodeTable) (machine : Inflater) :
    Except Obstacle Inflater := do
  let (symbol, reader) ← literals.decode machine.reader
  if symbol < 256 then
    return { machine with reader, pending := .literal (UInt8.ofNat symbol) }
  else if symbol = 256 then
    let lastBlock := machine.lastBlock
    return { machine with
      reader := if lastBlock then reader.align else reader
      stage := afterBlock lastBlock }
  else
    let (length, reader) ← readBased lengthBases (symbol - 257) reader
    let (symbol, reader) ← distances.decode reader
    let (distance, reader) ← readBased distanceBases symbol reader
    return { machine with reader, pending := .copy length distance }

def stepChecksum (machine : Inflater) : Except Obstacle Inflater := do
  let (high, reader) ← machine.reader.align.bits 16
  let (low, reader) ← reader.bits 16
  let swap := fun half : Nat => half % 256 * 256 + half / 256
  if swap high ≠ machine.output.sums.high || swap low ≠ machine.output.sums.low then
    throw .broken
  return { machine with reader, stage := .finished }

/-- One step that writes nothing. -/
def step (machine : Inflater) : Except Obstacle Inflater :=
  match machine.stage with
  | .start => machine.stepStart
  | .block => machine.stepBlock
  | .coded literals distances => machine.stepCoded literals distances
  | .checksum => machine.stepChecksum
  | .stored _ => .ok { machine with stage := afterBlock machine.lastBlock }
  | .finished => .ok machine

/-- Whether the next thing to do is to write. -/
def wantsRoom (machine : Inflater) : Bool :=
  match machine.pending, machine.stage with
  | .nothing, .stored left => left != 0
  | .nothing, _ => false
  | _, _ => true

/-- Whether stored bytes are to be written and none has arrived. -/
def lacksInput (machine : Inflater) : Bool :=
  match machine.pending, machine.stage with
  | .nothing, .stored _ => machine.reader.rest.isEmpty
  | _, _ => false

def isFinished (machine : Inflater) : Bool :=
  match machine.stage with
  | .finished => true
  | _ => false

/-- Writes into a room that is not empty; gives what is left of it. References must not
reach back further than the window or the start of the output. -/
def emit (machine : Inflater) (room : Nat) : Option (Inflater × Nat) :=
  match machine with
  | ⟨reader, stage, lastBlock, .literal byte, output⟩ =>
    some (⟨reader, stage, lastBlock, .nothing, output.push byte⟩, room - 1)
  | ⟨reader, stage, lastBlock, .copy length distance, output⟩ =>
    if output.written < distance || Inflated.window < distance then none
    else
      let count := min length room
      let pending := if count < length then .copy (length - count) distance else .nothing
      some (⟨reader, stage, lastBlock, pending, (output.copyBack distance count).trim⟩,
        room - count)
  | ⟨reader, .stored left, lastBlock, .nothing, output⟩ =>
    let bytes := reader.rest.take (min left room)
    some (⟨⟨0, 0, reader.rest.drop bytes.length⟩, .stored (left - bytes.length), lastBlock,
      .nothing, (bytes.foldl Inflated.push output).trim⟩, room - bytes.length)
  | machine => some (machine, room)

/-- Runs until something stops it; gives the machine and the room that is left. -/
def run : Nat → Inflater → (room : Nat) → Stop × Inflater × Nat
  | 0, machine, room => (.starved, machine, room)
  | fuel + 1, machine, room =>
    if machine.wantsRoom then
      if room = 0 then (.full, machine, room)
      else if machine.lacksInput then (.starved, machine, room)
      else
        match machine.emit room with
        | none => (.broken, start, room)
        | some (machine, room) => run fuel machine room
    else if machine.isFinished then (.finished, machine, room)
    else
      match machine.step with
      | .error obstacle => (obstacle.stop, machine, room)
      | .ok machine => run fuel machine room

/-- Every step consumes a bit or writes a byte, or is one of the few between blocks. -/
def fill (machine : Inflater) (room : Nat) : Stop × Inflater × Nat :=
  run (16 * (machine.reader.rest.length + 2) + room + 16) machine room

/-- Adds input. -/
def feed (machine : Inflater) (input : Bytes) : Inflater :=
  { machine with reader := { machine.reader with rest := machine.reader.rest ++ input } }

end Inflater

/-! ## Whole texts -/

/-- What becomes of a compressed text. -/
inductive InflatedText where
  | text (bytes : ByteArray)
  | tooLong
  | broken

def textLimit : Nat := 1048576

/-- A text is too long if input is left over when the limit is reached. A truncated stream
gives what it holds. -/
def inflateText (compressed : Bytes) : InflatedText :=
  match (Inflater.start.feed compressed).fill textLimit with
  | (.broken, _, _) => .broken
  | (.full, machine, _) =>
    if machine.reader.rest.isEmpty then .text machine.output.recent else .tooLong
  | (_, machine, _) => .text machine.output.recent

end ImageVault.Raster
