/-!
# Upper case towards plain letters

Upper case of the characters whose upper case consists of plain Latin letters: the letters
themselves, the dotless i, the long and the sharp s, and the Latin ligatures. Other
characters stay as they are; none of them turns into a plain letter.
-/
namespace ImageVault.Text

/-- Characters other than plain letters whose upper case is plain. -/
def plainUpperImages : List (Nat × String) :=
  [(0xDF, "SS"), (0x131, "I"), (0x17F, "S"), (0xFB00, "FF"), (0xFB01, "FI"), (0xFB02, "FL"),
   (0xFB03, "FFI"), (0xFB04, "FFL"), (0xFB05, "ST"), (0xFB06, "ST")]

def upperChar (c : Char) : List Char :=
  match plainUpperImages.lookup c.toNat with
  | some image => image.toList
  | none => [c.toUpper]

def upperPlain (text : List Char) : List Char :=
  text.flatMap upperChar

end ImageVault.Text
