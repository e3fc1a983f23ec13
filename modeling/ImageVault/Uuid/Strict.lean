import ImageVault.Uuid.Basic

/-!
# Strict spellings of an identifier

Accepted are the 32 digits, the canonical grouping of 36 characters in either case, that
grouping in braces, and that grouping after the name of its namespace.
-/
namespace ImageVault.Uuid

/-- Exactly 32 hexadecimal digits. -/
def ofDigits? (digits : List Char) : Option Uuid :=
  if digits.length = 32 then (Text.hexNumber? digits).bind ofNat? else none

/-- The canonical grouping, with the hyphens in their places. -/
def ofGroups? (text : List Char) : Option Uuid := do
  guard (text.length = 36)
  guard ([8, 13, 18, 23].all fun place => text[place]? = some '-')
  ofDigits? (text.filter (· ≠ '-'))

def namespacePrefix : List Char :=
  "urn:uuid:".toList

def ofStrict? (text : List Char) : Option Uuid :=
  if text.length = 32 then ofDigits? text
  else if text.length = 36 then ofGroups? text
  else if text.length = 38 && text.head? = some '\x7b' && text.getLast? = some '\x7d' then
    ofGroups? ((text.drop 1).take 36)
  else if text.length = 45 && namespacePrefix.isPrefixOf text then
    ofGroups? (text.drop namespacePrefix.length)
  else none

end ImageVault.Uuid
