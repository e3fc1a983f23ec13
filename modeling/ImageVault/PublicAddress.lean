import ImageVault.Fault
import ImageVault.Text.Blank
import ImageVault.Url.Join

/-!
# Public addresses

Relative resource paths are resolved against the configured base address of the server.
The base has to be an absolute web address; it counts as a directory, whether or not it is
written with a final slash.
-/
namespace ImageVault.PublicAddress

def notConfigured : Failure :=
  .of .config "Server URL is not configured" []

def notAbsolute (base : List Char) : Failure :=
  .of .config
    ("Server URL " ++ String.ofList (Text.quoted base) ++ " is not an absolute http(s) URL")
    [("server_url", .string (String.ofList base))]

def isWebScheme (scheme : List Char) : Bool :=
  scheme == "http".toList || scheme == "https".toList

def withFinalSlash (address : List Char) : List Char :=
  if address.getLast? = some '/' then address else address ++ ['/']

/-- The base address as a directory. -/
def base (serverUrl : Option String) : Except Fault (List Char) := do
  let trimmed := Text.trim (serverUrl.getD "").toList
  if trimmed.isEmpty then throw (.failure notConfigured)
  let parts ← (Url.split trimmed).mapError .address
  if isWebScheme parts.scheme && !parts.authority.isEmpty then
    return withFinalSlash trimmed
  throw (.failure (notAbsolute trimmed))

/-- Leading slashes of the path do not count. -/
def resolve (serverUrl : Option String) (path : String) : Except Fault String := do
  let directory ← base serverUrl
  let reference := path.toList.dropWhile (· == '/')
  let address ← (Url.join directory reference).mapError .address
  return String.ofList address

end ImageVault.PublicAddress
