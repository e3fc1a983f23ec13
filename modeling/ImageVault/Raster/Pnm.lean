import ImageVault.Number.Lenient
import ImageVault.Raster.Defect
import ImageVault.Raster.Extent
import ImageVault.Raster.Field

/-!
# The portable any-map family

The header is text: a magic word, the width, the height and, except for bitmaps, the
greatest sample value (for floating-point maps a scale). Tokens have at most ten characters
and are separated by blanks; a number sign starts a comment that ends with the line. Raw
samples follow in one or two bytes each, bitmaps in rows of eight pixels a byte. Plain
samples follow as tokens, plain bitmaps as single digits.

Plain samples are read in blocks of one mebibyte. What lies behind the last sample needed
is ignored, except that a plain bitmap's block holds digits only, and that a block does not
end in an overlong token.
-/
namespace ImageVault.Raster.Pnm

inductive Encoding where
  | rawBits
  | rawSamples
  | rawFloats
  | plainBits
  | plainSamples
  deriving DecidableEq

structure Kind where
  magic : String
  encoding : Encoding
  channels : Nat

def kinds : List Kind :=
  [⟨"P1", .plainBits, 1⟩, ⟨"P2", .plainSamples, 1⟩, ⟨"P3", .plainSamples, 3⟩,
   ⟨"P4", .rawBits, 1⟩, ⟨"P5", .rawSamples, 1⟩, ⟨"P6", .rawSamples, 3⟩,
   ⟨"P0CMYK", .rawSamples, 4⟩, ⟨"Pf", .rawFloats, 1⟩, ⟨"PyP", .rawSamples, 1⟩,
   ⟨"PyRGBA", .rawSamples, 4⟩, ⟨"PyCMYK", .rawSamples, 4⟩]

def isBlank (byte : UInt8) : Bool :=
  byte = 0x20 || (0x09 ≤ byte && byte ≤ 0x0D)

def endsLine (byte : UInt8) : Bool :=
  byte = 0x0A || byte = 0x0D

def startsComment (byte : UInt8) : Bool :=
  byte = 0x23

/-- The magic word: at most `count` bytes, up to a blank, which is consumed. -/
def readMagic : Nat → Bytes → Bytes × Bytes
  | 0, rest => ([], rest)
  | _ + 1, [] => ([], [])
  | count + 1, byte :: rest =>
    if isBlank byte then ([], rest)
    else
      let (word, rest) := readMagic count rest
      (byte :: word, rest)

def tokenLimit : Nat := 10

/-- A token and the bytes after the blank that ends it. The token so far is reversed. -/
def readToken (token : Bytes) (inComment : Bool) : Bytes → Except Defect (Bytes × Bytes)
  | [] => if token.isEmpty then .error .badValue else .ok (token.reverse, [])
  | byte :: rest =>
    if inComment then readToken token (!endsLine byte) rest
    else if isBlank byte then
      if token.isEmpty then readToken token false rest else .ok (token.reverse, rest)
    else if startsComment byte then readToken token true rest
    else if token.length = tokenLimit then .error .badValue
    else readToken (byte :: token) false rest

def readInt (content : Bytes) : Except Defect (Int × Bytes) := do
  let (token, rest) ← readToken [] false content
  return (← orDefect .badValue (Number.lenientInt? (latinText token)), rest)

/-- The greatest sample value. -/
def readMaximum (content : Bytes) : Except Defect (Nat × Bytes) := do
  let (maximum, rest) ← readInt content
  demand .badValue (0 < maximum && maximum < 65536)
  return (maximum.toNat, rest)

/-- The bytes after a scale, which is finite and not zero. -/
def skipScale (content : Bytes) : Except Defect Bytes := do
  let (token, rest) ← readToken [] false content
  let scale ← orDefect .badValue (Number.lenientFloat? (latinText token))
  demand .badValue (scale.isFinite && scale != 0.0)
  return rest

/-! ## Plain samples -/

def blockSize : Nat := 1048576

/-- Consecutive blocks of a plain body. -/
def blocks : Nat → Bytes → List Bytes
  | 0, _ => []
  | fuel + 1, body =>
    if body.isEmpty then [] else body.take blockSize :: blocks fuel (body.drop blockSize)

/-- Where the reader stands: inside a comment or not, and how many digits it has seen. -/
structure BitsState where
  inComment : Bool
  seen : Nat

/-- A byte outside comments is blank or one of the two digits. -/
def BitsState.push (state : Option BitsState) (byte : UInt8) : Option BitsState :=
  state.bind fun state =>
    if state.inComment then some { state with inComment := !endsLine byte }
    else if startsComment byte then some { state with inComment := true }
    else if isBlank byte then some state
    else if byte = 0x30 || byte = 0x31 then some { state with seen := state.seen + 1 }
    else none

/-- Whether the blocks hold the digits needed. -/
def holdsBits (needed : Nat) (state : BitsState) : List Bytes → Bool
  | [] => false
  | block :: rest =>
    match block.foldl BitsState.push (some state) with
    | none => false
    | some state => needed ≤ state.seen || holdsBits needed state rest

/-- The reversed token at hand, and how many samples are missing. -/
structure SamplesState where
  token : Bytes
  inComment : Bool
  missing : Nat

/-- Ends the token at hand; once nothing is missing, tokens are not looked at. -/
def SamplesState.endToken (maximum : Nat) (state : SamplesState) : Option SamplesState :=
  if state.token.isEmpty || state.missing = 0 then some { state with token := [] }
  else if tokenLimit < state.token.length then none
  else do
    let value ← Number.lenientInt? (latinText state.token.reverse)
    if 0 ≤ value && value ≤ maximum then
      some { state with token := [], missing := state.missing - 1 }
    else none

def SamplesState.push (maximum : Nat) (state : Option SamplesState) (byte : UInt8) :
    Option SamplesState :=
  state.bind fun state =>
    if state.inComment then some { state with inComment := !endsLine byte }
    else if startsComment byte then some { state with inComment := true }
    else if isBlank byte then state.endToken maximum
    else some { state with token := byte :: state.token }

/-- Whether the blocks hold the samples needed; the end of the file ends the last token. -/
def holdsSamples (maximum : Nat) (state : SamplesState) : List Bytes → Bool
  | [] => (state.endToken maximum).any (·.missing = 0)
  | block :: rest =>
    match block.foldl (SamplesState.push maximum) (some state) with
    | none => false
    | some state =>
      state.token.length ≤ tokenLimit
        && (state.missing = 0 || holdsSamples maximum state rest)

/-! ## Whole files -/

/-- What the header says, and the bytes after it. -/
structure Picture where
  extent : Extent
  kind : Kind
  maximum : Nat
  body : Bytes

/-- Reads what the header says about samples. Bits have no greatest value but one. -/
def readSampleHeader (encoding : Encoding) (content : Bytes) : Except Defect (Nat × Bytes) :=
  match encoding with
  | .rawBits => .ok (1, content)
  | .plainBits => .ok (1, content)
  | .rawSamples => readMaximum content
  | .plainSamples => readMaximum content
  | .rawFloats => (skipScale content).map ((1, ·))

def openFile (content : Bytes) : Except Defect Picture := do
  let (magic, rest) := readMagic 6 content
  let kind ← orDefect .malformed (kinds.find? fun kind => kind.magic.toList == latinText magic)
  let (width, rest) ← readInt rest
  let (height, rest) ← readInt rest
  let (maximum, body) ← readSampleHeader kind.encoding rest
  return ⟨⟨width.toNat, height.toNat⟩, kind, maximum, body⟩

/-- Whether the body is complete. -/
def load (picture : Picture) : Except Defect Unit :=
  let extent := picture.extent
  let samples := extent.width * extent.height * picture.kind.channels
  let body := picture.body
  match picture.kind.encoding with
  | .rawBits => demand .broken (extent.height * ((extent.width + 7) / 8) ≤ body.length)
  | .rawSamples =>
    demand .broken (samples * (if picture.maximum < 256 then 1 else 2) ≤ body.length)
  | .rawFloats => demand .broken (samples * 4 ≤ body.length)
  | .plainBits =>
    demand .badValue (holdsBits samples ⟨false, 0⟩ (blocks (body.length + 1) body))
  | .plainSamples =>
    demand .badValue (holdsSamples picture.maximum ⟨[], false, samples⟩
      (blocks (body.length + 1) body))

end ImageVault.Raster.Pnm
