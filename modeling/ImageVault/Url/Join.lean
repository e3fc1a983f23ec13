import ImageVault.Url.Split

/-!
# Resolving a reference against a base

The base is an address with an authority. A reference with another scheme stands for
itself, one with an authority keeps it, and a path is appended to the directory of the base
path. Then empty inner segments and single dots vanish, and two dots take the segment
before them away. Parameters of the last segment travel with the path that carries them.
-/
namespace ImageVault.Url

/-- The path and the parameters after the first semicolon of its last segment. -/
def splitParameters (path : List Char) : List Char × List Char :=
  let last := (path.reverse.takeWhile (· ≠ '/')).reverse
  match Text.cutAt ';' last with
  | (_, none) => (path, [])
  | (name, some parameters) => (path.take (path.length - last.length) ++ name, parameters)

def withParameters (path parameters : List Char) : List Char :=
  if parameters.isEmpty then path else path ++ ';' :: parameters

def dot : List Char := ['.']

def dotDot : List Char := ['.', '.']

/-- Walks the segments; the reversed list holds those that stay. -/
def removeDots (kept : List (List Char)) : List (List Char) → List (List Char)
  | [] => kept.reverse
  | segment :: rest =>
    if segment = dotDot then removeDots (kept.drop 1) rest
    else if segment = dot then removeDots kept rest
    else removeDots (segment :: kept) rest

/-- Drops empty segments other than the first and the last. -/
def dropInnerEmpty : List (List Char) → List (List Char)
  | [] => []
  | first :: rest =>
    first :: (rest.dropLast.filter fun segment => !segment.isEmpty) ++ rest.getLast?.toList

/-- The segments of the directory that holds the last segment of a path. -/
def directory (path : List Char) : List (List Char) :=
  let segments := Text.splitOn '/' path
  if segments.getLast? = some [] then segments else segments.dropLast

def resolvePath (base reference : List Char) : List Char :=
  let segments :=
    if reference.head? = some '/' then Text.splitOn '/' reference
    else dropInnerEmpty (directory base ++ Text.splitOn '/' reference)
  let endsInDots := segments.getLast? = some dot || segments.getLast? = some dotDot
  let path := Text.joinWith '/' (removeDots [] segments ++ if endsInDots then [[]] else [])
  if path.isEmpty then ['/'] else path

/-- An empty reference is the base as it is written. -/
def join (base reference : List Char) : Except Defect (List Char) := do
  if reference.isEmpty then return base
  let baseParts ← split base
  let parts ← split reference
  let scheme := if parts.scheme.isEmpty then baseParts.scheme else parts.scheme
  if scheme ≠ baseParts.scheme then return reference
  if !parts.authority.isEmpty then
    return Parts.unsplit { parts with scheme := scheme }
  let (basePath, baseParameters) := splitParameters baseParts.path
  let (path, parameters) := splitParameters parts.path
  if path.isEmpty && parameters.isEmpty then
    return Parts.unsplit
      { baseParts with
        path := withParameters basePath baseParameters
        query := if parts.query.isEmpty then baseParts.query else parts.query
        fragment := parts.fragment }
  return Parts.unsplit
    { baseParts with
      path := withParameters (resolvePath basePath path) parameters
      query := parts.query
      fragment := parts.fragment }

end ImageVault.Url
