import ImageVault.Text.Blank
import ImageVault.Text.DecimalDigit
import ImageVault.Uuid.Basic

/-!
# Lenient spellings of an identifier

Namespace names, outer braces and all hyphens are dropped, and exactly 32 characters have
to remain. Those are read as a hexadecimal number in the generous sense: blanks around it,
a plus sign, a radix mark, single underscores between digits, and decimal digits of other
scripts are accepted. Spellings with those have fewer digits, hence name small numbers.
-/
namespace ImageVault.Uuid

/-- Deletes the occurrences of `word` from left to right, `skip` characters still to drop. -/
def deleteFrom (word : List Char) : Nat → List Char → List Char
  | _, [] => []
  | skip + 1, _ :: rest => deleteFrom word skip rest
  | 0, c :: rest =>
    if word.isPrefixOf (c :: rest) then deleteFrom word (word.length - 1) rest
    else c :: deleteFrom word 0 rest

def deleteWord (word text : List Char) : List Char :=
  deleteFrom word 0 text

def isBrace (c : Char) : Bool :=
  c == '\x7b' || c == '\x7d'

def stripBraces (text : List Char) : List Char :=
  ((text.dropWhile isBrace).reverse.dropWhile isBrace).reverse

/-- What is left of a spelling once the decorations are dropped. -/
def bareSpelling (text : List Char) : List Char :=
  (stripBraces (deleteWord "uuid:".toList (deleteWord "urn:".toList text))).filter (· ≠ '-')

/-- Brings blanks and digits of other scripts to their plain form. -/
def plainChar? (c : Char) : Option Char :=
  if c.toNat < 127 then some c
  else if Text.isBlank c then some ' '
  else (Text.decimalValue? c).map Text.hexDigit

def isPlainBlank (c : Char) : Bool :=
  c == ' ' || (9 ≤ c.toNat && c.toNat ≤ 13)

/-- Digits with single underscores between them, after a total and the last character. -/
def readDigits (total : Nat) (afterDigit : Bool) : List Char → Option Nat
  | [] => if afterDigit then some total else none
  | c :: rest =>
    if c = '_' then if afterDigit then readDigits total false rest else none
    else do readDigits (16 * total + (← Text.hexValue? c)) true rest

/-- The digits after a radix mark may start with one underscore. -/
def afterRadixMark : List Char → List Char
  | '0' :: mark :: rest =>
    if mark = 'x' || mark = 'X' then
      match rest with
      | '_' :: rest => rest
      | rest => rest
    else '0' :: mark :: rest
  | text => text

def afterPlus : List Char → List Char
  | '+' :: rest => rest
  | text => text

def readHexNumber? (text : List Char) : Option Nat := do
  let plain ← text.mapM plainChar?
  let trimmed := ((plain.dropWhile isPlainBlank).reverse.dropWhile isPlainBlank).reverse
  readDigits 0 false (afterRadixMark (afterPlus trimmed))

def ofLenient? (text : List Char) : Option Uuid := do
  let bare := bareSpelling text
  guard (bare.length = 32)
  ofNat? (← readHexNumber? bare)

end ImageVault.Uuid
