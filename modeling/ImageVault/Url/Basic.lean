import ImageVault.Text.Quoted

/-!
# Parts of an address

An address is cut into scheme, authority, path, query and fragment. A part that is absent
is empty. Some authorities are refused; the refusals have fixed texts.
-/
namespace ImageVault.Url

structure Parts where
  scheme : List Char
  authority : List Char
  path : List Char
  query : List Char
  fragment : List Char
  deriving DecidableEq

/-- Why an authority is refused. -/
inductive Defect where
  | brackets
  | futureAddress
  | noAddress (host : List Char)
  | bracketedFourParts
  | foldedDelimiter (authority : List Char)
  deriving DecidableEq

def Defect.message : Defect → String
  | brackets => "Invalid IPv6 URL"
  | futureAddress => "IPvFuture address is invalid"
  | noAddress host =>
    String.ofList (Text.quoted host) ++ " does not appear to be an IPv4 or IPv6 address"
  | bracketedFourParts => "An IPv4 address cannot be in brackets"
  | foldedDelimiter authority =>
    "netloc '" ++ String.ofList authority
      ++ "' contains invalid characters under NFKC normalization"

end ImageVault.Url
