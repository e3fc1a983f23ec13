import ImageVault.Text.CodeRange

/-!
# Blank characters

The characters that trimming removes from both ends of a text: the bidirectional types
that separate (paragraph, segment and white space) together with the space separators.
-/
namespace ImageVault.Text

def blankRanges : CodeRanges :=
  [(0x9, 0xD), (0x1C, 0x20), (0x85, 0x85), (0xA0, 0xA0), (0x1680, 0x1680), (0x2000, 0x200A),
   (0x2028, 0x2029), (0x202F, 0x202F), (0x205F, 0x205F), (0x3000, 0x3000)]

def isBlank (c : Char) : Bool :=
  blankRanges.covers c

def trimLeft (text : List Char) : List Char :=
  text.dropWhile isBlank

def trimRight (text : List Char) : List Char :=
  (text.reverse.dropWhile isBlank).reverse

/-- Blank characters inside the text stay. -/
def trim (text : List Char) : List Char :=
  trimRight (trimLeft text)

end ImageVault.Text
