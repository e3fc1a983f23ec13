import ImageVault.Text.Hex

/-!
# Adler-32

Two running sums modulo the largest prime below two to the sixteenth: one of the bytes,
starting at one, and one of the values that the first sum takes.
-/
namespace ImageVault.Checksum

structure Adler32 where
  low : Nat
  high : Nat

namespace Adler32

def modulus : Nat := 65521

def start : Adler32 := ⟨1, 0⟩

def push (sums : Adler32) (byte : UInt8) : Adler32 :=
  let low := (sums.low + byte.toNat) % modulus
  ⟨low, (sums.high + low) % modulus⟩

def value (sums : Adler32) : Nat :=
  sums.high * 65536 + sums.low

end Adler32

def adler32 (bytes : Bytes) : Nat :=
  (bytes.foldl Adler32.push Adler32.start).value

end ImageVault.Checksum
