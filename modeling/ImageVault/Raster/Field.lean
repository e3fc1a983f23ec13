import ImageVault.Text.Hex

/-!
# Binary fields

Fields are read by offset and length; one that reaches over the end of the file is absent.
-/
namespace ImageVault.Raster

def littleEndian (field : Bytes) : Nat :=
  field.foldr (fun byte total => byte.toNat + 256 * total) 0

def bigEndian (field : Bytes) : Nat :=
  field.foldl (fun total byte => 256 * total + byte.toNat) 0

/-- The bytes of a field, all of them or none. -/
def field? (offset length : Nat) (content : Bytes) : Option Bytes :=
  let field := (content.drop offset).take length
  if field.length = length then some field else none

def byteAt? (offset : Nat) (content : Bytes) : Option Nat :=
  (field? offset 1 content).map littleEndian

def little16? (offset : Nat) (content : Bytes) : Option Nat :=
  (field? offset 2 content).map littleEndian

def little32? (offset : Nat) (content : Bytes) : Option Nat :=
  (field? offset 4 content).map littleEndian

def big16? (offset : Nat) (content : Bytes) : Option Nat :=
  (field? offset 2 content).map bigEndian

def big32? (offset : Nat) (content : Bytes) : Option Nat :=
  (field? offset 4 content).map bigEndian

/-- Bytes as characters of the first 256 code points. -/
def latinText (field : Bytes) : List Char :=
  field.map fun byte => Char.ofNat byte.toNat

end ImageVault.Raster
