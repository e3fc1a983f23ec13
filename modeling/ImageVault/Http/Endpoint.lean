import ImageVault.Http.Message
import ImageVault.Text.Percent
import ImageVault.Text.Split

/-!
# Endpoints

A path leads to at most one endpoint, and an endpoint answers one method, pages of the manual
apart. One line break behind the last segment does not count where that segment is fixed. A
path with final slashes is redirected if it would lead somewhere without them.
-/
namespace ImageVault

/-- Pages that describe the interface. -/
inductive Manual where
  | schema
  | explorer
  | signIn
  | reference
  deriving DecidableEq, Repr

namespace Manual

/-- The last segment of the path to a page. -/
def word : Manual → String
  | schema => "openapi.json"
  | explorer => "docs"
  | signIn => "oauth2-redirect"
  | reference => "redoc"

/-- The pages whose paths are one segment long. -/
def atRoot : List Manual :=
  [schema, explorer, reference]

end Manual

inductive Endpoint where
  | root
  | metrics
  | health
  | upload
  | info (id : List Char)
  | image (filename : List Char)
  | manual (page : Manual)
  deriving DecidableEq, Repr

namespace Endpoint

def method : Endpoint → String
  | upload => "POST"
  | _ => "GET"

/-- The methods of an endpoint; those of a page are in no fixed order. -/
def methods : Endpoint → List String
  | manual _ => ["GET", "HEAD"]
  | endpoint => [endpoint.method]

def isLast (word : String) (segment : List Char) : Bool :=
  segment = word.toList || segment = word.toList ++ ['\n']

def isImages (api version images : List Char) : Bool :=
  api = "api".toList && version = "v1".toList && images = "images".toList

/-- The endpoint for the segments after the leading slash. -/
def ofSegments? : List (List Char) → Option Endpoint
  | [segment] =>
    if isLast "" segment then some root
    else if isLast "metrics" segment then some metrics
    else (Manual.atRoot.find? fun page => isLast page.word segment).map manual
  | [folder, segment] =>
    if folder = "api".toList && isLast "health" segment then some health
    else if folder = "docs".toList && isLast Manual.signIn.word segment then some (manual .signIn)
    else none
  | [api, version, segment] =>
    if api = "api".toList && version = "v1".toList && isLast "images" segment then some upload
    else none
  | [api, version, images, name] =>
    if isImages api version images && !name.isEmpty then some (image name) else none
  | [api, version, images, id, segment] =>
    if isImages api version images && !id.isEmpty && isLast "info" segment then some (info id)
    else none
  | _ => none

def ofPath? : List Char → Option Endpoint
  | '/' :: rest => ofSegments? (Text.splitOn '/' rest)
  | _ => none

/-- The path without its final slashes, if it has some and leads somewhere without them. -/
def redirect? (path : List Char) : Option (List Char) :=
  let shorter := (path.reverse.dropWhile (· == '/')).reverse
  if path.getLast? = some '/' && path ≠ ['/'] && (ofPath? shorter).isSome then some shorter
  else none

end Endpoint

/-! ### Paths inside addresses

Requests name the host `test`, which ends where the path starts. So whatever the path is, it
can be read off the address again, once the characters that would end it are escaped. -/

namespace RequestAddress

/-- Characters that would end the path inside an address. -/
def escapeChar (c : Char) : List Char :=
  if c = '\\' then "%5C".toList
  else if c = '?' then "%3F".toList
  else if c = '#' then "%23".toList
  else [c]

def escape (path : List Char) : List Char :=
  path.flatMap escapeChar

/-- The path of a request as a part of its address; line breaks and tabs are not. -/
def path (path : String) : String :=
  String.ofList ((escape path.toList).filter fun c => c ≠ '\n' && c ≠ '\r' && c ≠ '\t')

def isPlain (c : Char) : Bool :=
  c.isAlphanum || "_.-~:/%#?=@[]!$&'()*+,;".toList.contains c

def location (path : List Char) : String :=
  String.ofList (Text.percentEncode isPlain ("http://test".toList ++ escape path))

end RequestAddress

end ImageVault
