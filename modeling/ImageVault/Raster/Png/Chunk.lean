import ImageVault.Checksum.Crc32
import ImageVault.Raster.Defect
import ImageVault.Raster.Field

/-!
# Chunks

A chunk is its length, a name of four word characters, that many bytes of data and a
checksum of name and data. Up to the pixel data checksums are verified; behind the start of
the pixel data they are skipped.
-/
namespace ImageVault.Raster.Png

structure ChunkHeader where
  length : Nat
  name : String
  deriving DecidableEq

/-- Letters, digits and the underscore. -/
def isNameByte (byte : UInt8) : Bool :=
  let c := Char.ofNat byte.toNat
  c.isAlphanum || c == '_'

/-- The header at the start of the bytes, and the bytes after it. -/
def readChunkHeader (content : Bytes) : Except Defect (ChunkHeader × Bytes) := do
  let length ← orDefect .shortField (big32? 0 content)
  let name ← orDefect .malformed (field? 4 4 content)
  demand .malformed (name.all isNameByte)
  return (⟨length, String.ofList (latinText name)⟩, content.drop 8)

/-- Takes the data of a chunk; all of it has to be there. -/
def takeData (length : Nat) (content : Bytes) : Except Defect (Bytes × Bytes) := do
  let data ← orDefect .broken (field? 0 length content)
  return (data, content.drop length)

/-- The bytes after the checksum, provided that it is right. -/
def verify (name : String) (data content : Bytes) : Except Defect Bytes := do
  let expected ← orDefect .malformed (big32? 0 content)
  let actual := Checksum.crc32 (name.toUTF8.toList ++ data)
  demand .malformed (actual.toNat = expected)
  return content.drop 4

end ImageVault.Raster.Png
