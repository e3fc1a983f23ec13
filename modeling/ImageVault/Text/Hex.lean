/-!
# Hexadecimal text

Digits are written in lower case and read in either case.
-/
namespace ImageVault

/-- Payloads, files and hash inputs are lists of bytes. -/
abbrev Bytes := List UInt8

namespace Text

def hexDigit (n : Nat) : Char :=
  if n < 10 then Char.ofNat (0x30 + n) else Char.ofNat (0x57 + n)

def hexValue? (c : Char) : Option Nat :=
  if c.isDigit then some (c.toNat - 0x30)
  else if 'a' ≤ c && c ≤ 'f' then some (c.toNat - 0x57)
  else if 'A' ≤ c && c ≤ 'F' then some (c.toNat - 0x37)
  else none

def isHexDigit (c : Char) : Bool :=
  (hexValue? c).isSome

/-- The lowest `width` hexadecimal digits of a number, most significant first. -/
def hexPadded : Nat → Nat → List Char
  | 0, _ => []
  | width + 1, n => hexPadded width (n / 16) ++ [hexDigit (n % 16)]

/-- The number that a list of hexadecimal digits spells. -/
def hexNumber? (digits : List Char) : Option Nat :=
  digits.foldlM (fun total c => (hexValue? c).map (16 * total + ·)) 0

def hexOfBytes (bytes : Bytes) : List Char :=
  bytes.flatMap fun byte => hexPadded 2 byte.toNat

/-- Two digits a byte; an odd digit out or a character that is no digit is refused. -/
def bytesOfHex? : List Char → Option Bytes
  | [] => some []
  | [_] => none
  | high :: low :: rest => do
    let number ← hexNumber? [high, low]
    return UInt8.ofNat number :: (← bytesOfHex? rest)

end Text

end ImageVault
