import ImageVault.Text.Hex
import ImageVault.Text.Printable

/-!
# Quoted text

The diagnostic form of a text: between single quotes, or between double quotes when the
text holds single quotes and no double ones; backslash, the quote in use and every
unprintable character are escaped.
-/
namespace ImageVault.Text

def singleQuote : Char := Char.ofNat 0x27

def doubleQuote : Char := Char.ofNat 0x22

def backslash : Char := Char.ofNat 0x5C

def chooseQuote (text : List Char) : Char :=
  if text.contains singleQuote && !text.contains doubleQuote then doubleQuote else singleQuote

/-- The shortest of the three numeric escapes that holds the code point. -/
def numericEscape (c : Char) : List Char :=
  if c.toNat < 0x100 then backslash :: 'x' :: hexPadded 2 c.toNat
  else if c.toNat < 0x10000 then backslash :: 'u' :: hexPadded 4 c.toNat
  else backslash :: 'U' :: hexPadded 8 c.toNat

def quoteChar (quote c : Char) : List Char :=
  if c = quote || c = backslash then [backslash, c]
  else if c = '\n' then [backslash, 'n']
  else if c = '\r' then [backslash, 'r']
  else if c = '\t' then [backslash, 't']
  else if isPrintable c then [c]
  else numericEscape c

def quoted (text : List Char) : List Char :=
  let quote := chooseQuote text
  quote :: text.flatMap (quoteChar quote) ++ [quote]

end ImageVault.Text
