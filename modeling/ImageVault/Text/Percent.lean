import ImageVault.Text.Utf8

/-!
# Percent notation

A percent sign and two hexadecimal digits stand for a byte. Reading leaves other percent
signs alone; writing uses upper-case digits.
-/
namespace ImageVault.Text

/-- The bytes of a text in percent notation. -/
def percentBytes : List Char → Bytes
  | '%' :: a :: b :: rest =>
    match hexNumber? [a, b] with
    | some byte => UInt8.ofNat byte :: percentBytes rest
    | none => 0x25 :: percentBytes (a :: b :: rest)
  | c :: rest => toUtf8 [c] ++ percentBytes rest
  | [] => []

/-- Characters beyond the first 128 end a run of bytes, so they mend no sequence. -/
def percentDecode (text : List Char) : List Char :=
  ofUtf8 (percentBytes text)

def percentByte (byte : UInt8) : List Char :=
  '%' :: (hexPadded 2 byte.toNat).map Char.toUpper

/-- Writes every character that is not safe in percent notation. -/
def percentEncode (isSafe : Char → Bool) (text : List Char) : List Char :=
  text.flatMap fun c => if isSafe c then [c] else (toUtf8 [c]).flatMap percentByte

end ImageVault.Text
