import ImageVault.Url.Host

/-!
# Cutting an address into its parts

Controls and spaces in front, and tabs and line breaks anywhere, do not count. A scheme is
what stands before the first colon if it has the form of one; an authority follows two
slashes and ends at a slash, a question mark or a number sign.
-/
namespace ImageVault.Url

def isControlOrSpace (c : Char) : Bool :=
  c.toNat ≤ 0x20

def isSchemeChar (c : Char) : Bool :=
  c.isAlphanum || c == '+' || c == '-' || c == '.'

/-- Drops what does not count. -/
def clean (text : List Char) : List Char :=
  (text.dropWhile isControlOrSpace).filter fun c => c ≠ '\t' && c ≠ '\n' && c ≠ '\r'

/-- The scheme in lower case and the text after its colon. -/
def splitScheme (text : List Char) : List Char × List Char :=
  match Text.cutAt ':' text with
  | (first :: more, some rest) =>
    if first.isAlpha && more.all isSchemeChar then ((first :: more).map Char.toLower, rest)
    else ([], text)
  | _ => ([], text)

def endsAuthority (c : Char) : Bool :=
  c == '/' || c == '?' || c == '#'

/-- The authority, if two slashes announce one, and the rest. -/
def splitAuthority : List Char → List Char × List Char
  | '/' :: '/' :: rest =>
    (rest.takeWhile (!endsAuthority ·), rest.dropWhile (!endsAuthority ·))
  | text => ([], text)

def checkAuthority (authority : List Char) : Except Defect Unit :=
  match authority.contains '[', authority.contains ']' with
  | true, true => checkBrackets authority
  | false, false => .ok ()
  | _, _ => .error .brackets

def split (text : List Char) : Except Defect Parts := do
  let (scheme, rest) := splitScheme (clean text)
  let (authority, rest) := splitAuthority rest
  checkAuthority authority
  let (rest, fragment) := Text.cutAt '#' rest
  let (path, query) := Text.cutAt '?' rest
  if authority.any foldsToDelimiter then .error (.foldedDelimiter authority)
  else .ok ⟨scheme, authority, path, query.getD [], fragment.getD []⟩

/-- Writes the parts down again; the path of an address with an authority is rooted. -/
def Parts.unsplit (parts : Parts) : List Char :=
  let rooted := if parts.path.head?.any (· ≠ '/') then '/' :: parts.path else parts.path
  let address := '/' :: '/' :: parts.authority ++ rooted
  let address := if parts.scheme.isEmpty then address else parts.scheme ++ ':' :: address
  let address := if parts.query.isEmpty then address else address ++ '?' :: parts.query
  if parts.fragment.isEmpty then address else address ++ '#' :: parts.fragment

end ImageVault.Url
