import ImageVault.Text.Hex

/-!
# Text from bytes

Bytes that are not well-formed become the replacement character, one for each longest
beginning of a well-formed sequence, and one for each byte that begins none.
-/
namespace ImageVault.Text

def replacement : Char :=
  Char.ofNat 0xFFFD

/-- For a leading byte: how many bytes follow, its share of the code point, and the range
of the byte after it. -/
def leadingByte? (byte : Nat) : Option (Nat × Nat × Nat × Nat) :=
  if byte < 0x80 then some (0, byte, 0, 0)
  else if byte < 0xC2 then none
  else if byte < 0xE0 then some (1, byte - 0xC0, 0x80, 0xBF)
  else if byte = 0xE0 then some (2, 0, 0xA0, 0xBF)
  else if byte = 0xED then some (2, 0xD, 0x80, 0x9F)
  else if byte < 0xF0 then some (2, byte - 0xE0, 0x80, 0xBF)
  else if byte = 0xF0 then some (3, 0, 0x90, 0xBF)
  else if byte < 0xF4 then some (3, byte - 0xF0, 0x80, 0xBF)
  else if byte = 0xF4 then some (3, 4, 0x80, 0x8F)
  else none

/-- A sequence under way: the bytes missing, the code point so far, the range of the next
byte. -/
structure Sequence where
  missing : Nat
  value : Nat
  low : Nat
  high : Nat

def beginSequence (byte : Nat) : List Char × Option Sequence :=
  match leadingByte? byte with
  | none => ([replacement], none)
  | some (0, value, _, _) => ([Char.ofNat value], none)
  | some (missing, value, low, high) => ([], some ⟨missing, value, low, high⟩)

/-- The characters that a byte completes, and the sequence under way after it. -/
def decodeByte (state : Option Sequence) (byte : Nat) : List Char × Option Sequence :=
  match state with
  | none => beginSequence byte
  | some sequence =>
    if sequence.low ≤ byte && byte ≤ sequence.high then
      let value := sequence.value * 64 + (byte - 0x80)
      if sequence.missing = 1 then ([Char.ofNat value], none)
      else ([], some ⟨sequence.missing - 1, value, 0x80, 0xBF⟩)
    else
      let (characters, next) := beginSequence byte
      (replacement :: characters, next)

def decodeFrom (state : Option Sequence) : Bytes → List Char
  | [] => if state.isSome then [replacement] else []
  | byte :: rest =>
    let (characters, next) := decodeByte state byte.toNat
    characters ++ decodeFrom next rest

def ofUtf8 (bytes : Bytes) : List Char :=
  decodeFrom none bytes

def toUtf8 (text : List Char) : Bytes :=
  (String.ofList text).toUTF8.toList

end ImageVault.Text
