import ImageVault.Text.Split
import ImageVault.Url.Basic

/-!
# Hosts in brackets

A host in brackets has to be an address of eight 16-bit groups, possibly with one run of
zero groups left out and possibly with its last two groups in dotted form, or an address of
a future version. Characters whose compatibility form contains a delimiter are refused in
every authority, since they could move its end.
-/
namespace ImageVault.Url

/-- Up to three digits, no leading zero, at most 255. -/
def isOctet (text : List Char) : Bool :=
  !text.isEmpty && text.all Char.isDigit && text.length ≤ 3
    && (text.length = 1 || text.head? ≠ some '0')
    && text.foldl (fun total c => 10 * total + (c.toNat - 0x30)) 0 ≤ 255

def isDottedAddress (text : List Char) : Bool :=
  let octets := Text.splitOn '.' text
  octets.length = 4 && octets.all isOctet

/-- One to four hexadecimal digits. -/
def isGroup (text : List Char) : Bool :=
  !text.isEmpty && text.length ≤ 4 && text.all Text.isHexDigit

/-- Two groups stand for a dotted ending, which must itself be well formed. -/
def expandDotted? (groups : List (List Char)) : Option (List (List Char)) :=
  match groups.getLast? with
  | some last =>
    if last.contains '.' then
      if isDottedAddress last then some (groups.dropLast ++ [['0'], ['0']]) else none
    else some groups
  | none => none

/-- Positions of the empty groups that are neither first nor last. -/
def innerGaps (groups : List (List Char)) : List Nat :=
  (List.range groups.length).filter fun index =>
    0 < index && index + 1 < groups.length && groups[index]? = some []

/-- Groups around one gap: an empty outer group is allowed only next to the gap. -/
def isGappedAddress (before after : List (List Char)) : Bool :=
  let high := if before.head? = some [] then before.drop 1 else before
  let low := if after.getLast? = some [] then after.dropLast else after
  (before.head? ≠ some [] || high.isEmpty) && (after.getLast? ≠ some [] || low.isEmpty)
    && high.length + low.length ≤ 7
    && high.all isGroup && low.all isGroup

def isGroupedAddress (text : List Char) : Bool :=
  let (address, zone) := Text.cutAt '%' text
  let zoneFits := zone.all fun name => !name.isEmpty && !name.contains '%'
  let written := Text.splitOn ':' address
  zoneFits && !text.contains '/' && 3 ≤ written.length &&
    match expandDotted? written with
    | none => false
    | some groups =>
      groups.length ≤ 9 &&
        match innerGaps groups with
        | [] => groups.length = 8 && groups.all isGroup
        | [gap] => isGappedAddress (groups.take gap) (groups.drop (gap + 1))
        | _ => false

/-- The form `v`, hexadecimal digits, a point and something more. -/
def isFutureAddress (text : List Char) : Bool :=
  let digits := (text.drop 1).takeWhile Text.isHexDigit
  let rest := (text.drop 1).dropWhile Text.isHexDigit
  !digits.isEmpty && rest.head? = some '.' && 2 ≤ rest.length

def checkBracketedHost (host : List Char) : Except Defect Unit :=
  if host.head? = some 'v' then
    if isFutureAddress host then .ok () else .error .futureAddress
  else if isDottedAddress host then .error .bracketedFourParts
  else if isGroupedAddress host then .ok ()
  else .error (.noAddress host)

/-- The part of an authority after its user information. -/
def hostAndPort (authority : List Char) : List Char :=
  (authority.reverse.takeWhile (· ≠ '@')).reverse

/-- A bracket opens the host, and only a port may follow the closing one. -/
def checkBrackets (authority : List Char) : Except Defect Unit :=
  let place := hostAndPort authority
  match Text.cutAt '[' place with
  | (before, some bracketed) =>
    let (host, port) := Text.cutAt ']' bracketed
    let port := port.getD []
    if !before.isEmpty then .error .brackets
    else if !port.isEmpty && port.head? ≠ some ':' then .error .brackets
    else checkBracketedHost host
  | (_, none) => checkBracketedHost (Text.cutAt ':' place).1

/-- Characters whose compatibility decomposition contains one of `/ ? # @ :`. -/
def foldsToDelimiter (c : Char) : Bool :=
  [0x2047, 0x2048, 0x2049, 0x2100, 0x2101, 0x2105, 0x2106, 0x2A74, 0xFE13, 0xFE16, 0xFE55,
   0xFE56, 0xFE5F, 0xFE6B, 0xFF03, 0xFF0F, 0xFF1A, 0xFF1F, 0xFF20].contains c.toNat

end ImageVault.Url
