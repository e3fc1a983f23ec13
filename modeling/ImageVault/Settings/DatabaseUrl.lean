import ImageVault.Text.Percent
import ImageVault.Text.Split

/-!
# Database addresses

An address names a driver, and may name a user with a password, a host with a port, a
database and options. User and password are in percent notation.
-/
namespace ImageVault

structure DatabaseUrl where
  driver : List Char
  user : Option (List Char)
  password : Option (List Char)
  host : Option (List Char)
  port : Option (List Char)
  database : Option (List Char)
  options : List Char
  deriving DecidableEq, Repr

namespace DatabaseUrl

def isDriverChar (c : Char) : Bool :=
  c.isAlphanum || c = '_' || c = '+'

/-- The driver in front of the address, and what follows it. -/
def readDriver? (text : List Char) : Option (List Char × List Char) :=
  match text.span isDriverChar with
  | ([], _) => none
  | (driver, ':' :: '/' :: '/' :: rest) => some (driver, rest)
  | _ => none

/-- The text up to the last occurrence of a character, and the text after it. -/
def cutAtLast? (separator : Char) (text : List Char) : Option (List Char × List Char) :=
  match text.reverse.dropWhile (· ≠ separator) with
  | [] => none
  | _ :: before =>
    some (before.reverse, (text.reverse.takeWhile (· ≠ separator)).reverse)

/-- A user with an optional password, in front of an at sign. -/
def readUser (text : List Char) : Option (List Char) × Option (List Char) × List Char :=
  let (name, rest) := text.span fun c => c ≠ ':' && c ≠ '/'
  let withPassword :=
    match rest with
    | ':' :: secret =>
      match Text.cutAt '@' secret with
      | (password, some rest) => some (password, rest)
      | _ => none
    | _ => none
  match withPassword with
  | some (password, rest) => (some name, some password, rest)
  | none =>
    match cutAtLast? '@' name with
    | some (user, host) => (some user, none, host ++ rest)
    | none => (none, none, text)

/-- A host, in brackets if it holds colons; none if the text does not start with one. -/
def readHost (text : List Char) : Option (List Char) × List Char :=
  let bracketed :=
    match text with
    | '[' :: inner =>
      let (run, rest) := inner.span fun c => c ≠ '/' && c ≠ '?'
      match cutAtLast? ']' run with
      | some ([], _) => none
      | some (host, after) => some (host, after ++ rest)
      | none => none
    | _ => none
  match bracketed with
  | some (host, rest) => (some host, rest)
  | none =>
    match text.span fun c => c ≠ '/' && c ≠ ':' && c ≠ '?' with
    | ([], rest) => (none, rest)
    | (host, rest) => (some host, rest)

def readPort (text : List Char) : Option (List Char) × List Char :=
  match text with
  | ':' :: rest =>
    let (port, rest) := rest.span fun c => c ≠ '/' && c ≠ '?'
    (some port, rest)
  | text => (none, text)

def readDatabase (text : List Char) : Option (List Char) × List Char :=
  match text with
  | '/' :: rest =>
    let (database, rest) := rest.span (· ≠ '?')
    (some database, rest)
  | text => (none, text)

def parse? (text : List Char) : Option DatabaseUrl := do
  let (driver, rest) ← readDriver? text
  let (user, password, rest) := readUser rest
  let (host, rest) := readHost rest
  let (port, rest) := readPort rest
  let (database, rest) := readDatabase rest
  let options := if rest.head? = some '?' then (rest.drop 1).takeWhile (· ≠ '\n') else []
  return ⟨driver, user.map Text.percentDecode, password.map Text.percentDecode, host, port,
    database, options⟩

/-- The value of the last option with this name. -/
def option? (address : DatabaseUrl) (name : List Char) : Option (List Char) :=
  (((Text.splitOn '&' address.options).map (Text.cutAt '=')).filterMap fun (key, value) =>
    if key = name then value else none).getLast?

end DatabaseUrl

end ImageVault
