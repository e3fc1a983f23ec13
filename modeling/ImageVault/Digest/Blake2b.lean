import ImageVault.Text.Hex

/-!
# BLAKE2b without a key

The message is cut into blocks of 128 bytes, the last one filled up with zeros. Each block
is mixed into eight 64-bit words in twelve rounds; the words, least significant byte first,
are the digest, cut to the wanted size. The size is part of the initial words, so digests
of different sizes are unrelated.
-/
namespace ImageVault.Digest

abbrev Words := Array UInt64

/-- Words that are not there count as zero. -/
def word (words : Words) (index : Nat) : UInt64 :=
  words.getD index 0

def blake2bInitial : Words :=
  #[0x6A09E667F3BCC908, 0xBB67AE8584CAA73B, 0x3C6EF372FE94F82B, 0xA54FF53A5F1D36F1,
    0x510E527FADE682D1, 0x9B05688C2B3E6C1F, 0x1F83D9ABFB41BD6B, 0x5BE0CD19137E2179]

/-- The order in which the rounds take the words of a block. -/
def blake2bSchedule : List (List Nat) :=
  [[0, 1, 2, 3, 4, 5, 6, 7, 8, 9, 10, 11, 12, 13, 14, 15],
   [14, 10, 4, 8, 9, 15, 13, 6, 1, 12, 0, 2, 11, 7, 5, 3],
   [11, 8, 12, 0, 5, 2, 15, 13, 10, 14, 3, 6, 7, 1, 9, 4],
   [7, 9, 3, 1, 13, 12, 11, 14, 2, 6, 5, 10, 4, 0, 15, 8],
   [9, 0, 5, 7, 2, 4, 10, 15, 14, 1, 11, 12, 6, 8, 3, 13],
   [2, 12, 6, 10, 0, 11, 8, 3, 4, 13, 7, 5, 15, 14, 1, 9],
   [12, 5, 1, 15, 14, 13, 4, 10, 0, 7, 6, 3, 9, 2, 8, 11],
   [13, 11, 7, 14, 12, 1, 3, 9, 5, 0, 15, 4, 8, 6, 2, 10],
   [6, 15, 14, 9, 11, 3, 0, 8, 12, 2, 13, 7, 1, 4, 10, 5],
   [10, 2, 8, 4, 7, 6, 1, 5, 15, 11, 9, 14, 3, 12, 13, 0],
   [0, 1, 2, 3, 4, 5, 6, 7, 8, 9, 10, 11, 12, 13, 14, 15],
   [14, 10, 4, 8, 9, 15, 13, 6, 1, 12, 0, 2, 11, 7, 5, 3]]

/-- The four columns and then the four diagonals of the state. -/
def blake2bLanes : List (Nat × Nat × Nat × Nat) :=
  [(0, 4, 8, 12), (1, 5, 9, 13), (2, 6, 10, 14), (3, 7, 11, 15),
   (0, 5, 10, 15), (1, 6, 11, 12), (2, 7, 8, 13), (3, 4, 9, 14)]

def rotateRight (word : UInt64) (count : UInt64) : UInt64 :=
  (word >>> count) ||| (word <<< (64 - count))

/-- Mixes two words of the block into one lane. -/
def mixLane (state : Words) (lane : Nat × Nat × Nat × Nat) (x y : UInt64) : Words :=
  let (ia, ib, ic, id) := lane
  let a := word state ia + word state ib + x
  let d := rotateRight (word state id ^^^ a) 32
  let c := word state ic + d
  let b := rotateRight (word state ib ^^^ c) 24
  let a := a + b + y
  let d := rotateRight (d ^^^ a) 16
  let c := c + d
  let b := rotateRight (b ^^^ c) 63
  (((state.setIfInBounds ia a).setIfInBounds ib b).setIfInBounds ic c).setIfInBounds id d

def mixRound (block : Words) (state : Words) (order : List Nat) : Words :=
  let pick := fun place => word block (order.getD place 0)
  (blake2bLanes.zipIdx).foldl
    (fun state (lane, index) => mixLane state lane (pick (2 * index)) (pick (2 * index + 1))) state

def wordOfBytes (bytes : Bytes) : UInt64 :=
  bytes.foldr (fun byte total => total * 256 + byte.toUInt64) 0

def bytesOfWord (word : UInt64) : Bytes :=
  (List.range 8).map fun index => (word >>> (8 * index).toUInt64).toUInt8

/-- The sixteen words of a block, filled up with zeros. -/
def blockWords (block : Bytes) : Words :=
  ((List.range 16).map fun index => wordOfBytes ((block.drop (8 * index)).take 8)).toArray

/-- Mixes a block that ends after `count` bytes of the message into the chained words. -/
def compress (chain : Words) (block : Bytes) (count : Nat) (last : Bool) : Words :=
  let state := chain ++ blake2bInitial
  let state := state.setIfInBounds 12 (word state 12 ^^^ count.toUInt64)
  let state := state.setIfInBounds 13 (word state 13 ^^^ (count >>> 64).toUInt64)
  let state := if last then state.setIfInBounds 14 (~~~ word state 14) else state
  let mixed := blake2bSchedule.foldl (mixRound (blockWords block)) state
  ((List.range 8).map fun index =>
    word chain index ^^^ word mixed index ^^^ word mixed (index + 8)).toArray

/-- Absorbs the blocks that are left; the last one may be short, or empty for no message. -/
def absorb : Nat → Words → Nat → Bytes → Words
  | 0, chain, _, _ => chain
  | fuel + 1, chain, count, message =>
    if message.length ≤ 128 then compress chain message (count + message.length) true
    else
      absorb fuel (compress chain (message.take 128) (count + 128) false) (count + 128)
        (message.drop 128)

def blake2b (size : Nat) (message : Bytes) : Bytes :=
  let parameters : UInt64 := 0x01010000 ^^^ size.toUInt64
  let chain := blake2bInitial.setIfInBounds 0 (word blake2bInitial 0 ^^^ parameters)
  let words := absorb (message.length + 1) chain 0 message
  (words.toList.flatMap bytesOfWord).take size

end ImageVault.Digest
