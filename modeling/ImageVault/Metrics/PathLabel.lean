import ImageVault.Text.Hex

/-!
# Path labels

Request paths become labels of bounded number: identifiers in canonical grouping (either
case) are replaced wherever they stand, and after that names as the vault generates them,
where they fill a segment. The end of the path counts as the end of its last segment, also
in front of one final line break.
-/
namespace ImageVault.PathLabel

/-- Whether the text starts with `count` hexadecimal digits. -/
def startsWithHex : Nat → List Char → Bool
  | 0, _ => true
  | _ + 1, [] => false
  | count + 1, c :: rest => Text.isHexDigit c && startsWithHex count rest

/-- Groups of hexadecimal digits, each but the last followed by a hyphen. -/
def startsWithGroups : List Nat → List Char → Bool
  | [], _ => true
  | [last], text => startsWithHex last text
  | count :: counts, text =>
    startsWithHex count text && text[count]? == some '-'
      && startsWithGroups counts (text.drop (count + 1))

def startsWithId (text : List Char) : Bool :=
  startsWithGroups [8, 4, 4, 4, 12] text

def idLabel : List Char :=
  '\x7b' :: 'i' :: 'd' :: ['\x7d']

/-- Replaces identifiers from left to right, `skip` characters of one still to pass over. -/
def replaceIdsFrom : Nat → List Char → List Char
  | _, [] => []
  | skip + 1, _ :: rest => replaceIdsFrom skip rest
  | 0, c :: rest =>
    if startsWithId (c :: rest) then idLabel ++ replaceIdsFrom 35 rest
    else c :: replaceIdsFrom 0 rest

def isLowerHexDigit (c : Char) : Bool :=
  c.isDigit || ('a' ≤ c && c ≤ 'f')

/-- Where a segment can end: at a slash, at the end, or before one final line break. -/
def endsSegment : List Char → Bool
  | [] => true
  | ['\n'] => true
  | c :: _ => c == '/'

/-- The length of a generated name at the start of the text, if it fills the segment. -/
def nameLength? (text : List Char) : Option Nat :=
  let digits := text.takeWhile isLowerHexDigit
  let rest := text.dropWhile isLowerHexDigit
  if digits.isEmpty then none
  else
    [".jpeg".toList, ".png".toList].findSome? fun extension =>
      if extension.isPrefixOf rest && endsSegment (rest.drop extension.length) then
        some (digits.length + extension.length)
      else none

def nameLabel : List Char :=
  '\x7b' :: "filename".toList ++ ['\x7d']

/-- Replaces generated names after slashes, `skip` characters of one still to pass over. -/
def replaceNamesFrom : Nat → List Char → List Char
  | _, [] => []
  | skip + 1, _ :: rest => replaceNamesFrom skip rest
  | 0, c :: rest =>
    if c = '/' then
      match nameLength? rest with
      | some length => '/' :: nameLabel ++ replaceNamesFrom length rest
      | none => '/' :: replaceNamesFrom 0 rest
    else c :: replaceNamesFrom 0 rest

def ofChars (path : List Char) : List Char :=
  replaceNamesFrom 0 (replaceIdsFrom 0 path)

def ofPath (path : String) : String :=
  String.ofList (ofChars path.toList)

end ImageVault.PathLabel
