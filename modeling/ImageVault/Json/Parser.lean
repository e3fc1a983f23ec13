import ImageVault.Json.Basic
import ImageVault.Number.Decimal
import ImageVault.Text.Hex

/-!
# Reading JSON text

The grammar is the standard one, extended by the three names for floating-point values
that have no decimal form. A number without fraction and exponent is whole. Every step
consumes a character or descends into a value that starts at the next character, so twice
the length of the text bounds the work.
-/
namespace ImageVault.Json

def skipBlanks (text : List Char) : List Char :=
  text.dropWhile fun c => c == ' ' || c == '\t' || c == '\n' || c == '\r'

/-- The rest of the text after a given beginning. -/
def after? : List Char → List Char → Option (List Char)
  | [], text => some text
  | expected :: more, c :: rest => if expected = c then after? more rest else none
  | _ :: _, [] => none

def simpleEscape? : Char → Option Char
  | '"' => some '"'
  | '\\' => some '\\'
  | '/' => some '/'
  | 'b' => some (Char.ofNat 8)
  | 'f' => some (Char.ofNat 12)
  | 'n' => some '\n'
  | 'r' => some '\r'
  | 't' => some '\t'
  | _ => none

/-- Code units of a string up to its closing quote, and the text after it. -/
def readUnits : List Char → Option (List Nat × List Char)
  | [] => none
  | '"' :: rest => some ([], rest)
  | '\\' :: 'u' :: a :: b :: c :: d :: rest => do
    let unit ← Text.hexNumber? [a, b, c, d]
    let (units, rest) ← readUnits rest
    return (unit :: units, rest)
  | '\\' :: c :: rest => do
    let escaped ← simpleEscape? c
    let (units, rest) ← readUnits rest
    return (escaped.toNat :: units, rest)
  | c :: rest =>
    if c.toNat < 0x20 then none
    else do
      let (units, rest) ← readUnits rest
      return (c.toNat :: units, rest)

def isHighSurrogate (unit : Nat) : Bool :=
  0xD800 ≤ unit && unit < 0xDC00

def isLowSurrogate (unit : Nat) : Bool :=
  0xDC00 ≤ unit && unit < 0xE000

/-- Two surrogates that belong together are one character; a lone one is replaced. -/
def charsOfUnits : List Nat → List Char
  | [] => []
  | [unit] =>
    [if isHighSurrogate unit || isLowSurrogate unit then Char.ofNat 0xFFFD else Char.ofNat unit]
  | high :: low :: rest =>
    if isHighSurrogate high && isLowSurrogate low then
      Char.ofNat (0x10000 + (high - 0xD800) * 0x400 + (low - 0xDC00)) :: charsOfUnits rest
    else if isHighSurrogate high || isLowSurrogate high then
      Char.ofNat 0xFFFD :: charsOfUnits (low :: rest)
    else Char.ofNat high :: charsOfUnits (low :: rest)

def readString (text : List Char) : Option (String × List Char) := do
  let (units, rest) ← readUnits text
  return (String.ofList (charsOfUnits units), rest)

def takeDigits (text : List Char) : List Char × List Char :=
  text.span Char.isDigit

/-- The fraction digits after a point; a point without digits is left unread. -/
def readFraction : List Char → Option (List Char) × List Char
  | '.' :: rest =>
    match takeDigits rest with
    | ([], _) => (none, '.' :: rest)
    | (digits, rest) => (some digits, rest)
  | text => (none, text)

/-- The exponent after its mark; a mark without digits is left unread. -/
def readExponent (text : List Char) : Option Int × List Char :=
  match text with
  | mark :: rest =>
    if mark = 'e' || mark = 'E' then
      let (negative, unsigned) :=
        match rest with
        | '-' :: more => (true, more)
        | '+' :: more => (false, more)
        | more => (false, more)
      let (digits, rest) := takeDigits unsigned
      match Number.natOfDigits? digits with
      | some magnitude => (some (if negative then -magnitude else magnitude), rest)
      | none => (none, text)
    else (none, text)
  | [] => (none, text)

/-- A number without leading zeros, its sign already read. -/
def readNumber (negative : Bool) (text : List Char) : Option (Json × List Char) := do
  let (whole, rest) :=
    match text with
    | '0' :: rest => (['0'], rest)
    | text => takeDigits text
  let magnitude ← Number.natOfDigits? whole
  let (fraction, rest) := readFraction rest
  let (exponent, rest) := readExponent rest
  match fraction, exponent with
  | none, none => return (.int (if negative then -magnitude else magnitude), rest)
  | fraction, exponent =>
    let places := fraction.getD []
    let digits ← Number.natOfDigits? (whole ++ places)
    return (.float (Number.floatOfDecimal negative digits (exponent.getD 0 - places.length)), rest)

mutual

/-- A value after any blanks. -/
def readValue : Nat → List Char → Option (Json × List Char)
  | 0, _ => none
  | fuel + 1, text =>
    let text := skipBlanks text
    match text with
    | '{' :: rest =>
      match skipBlanks rest with
      | '}' :: rest => some (.object [], rest)
      | rest => (readMembers fuel rest).map fun (members, rest) => (.object members, rest)
    | '[' :: rest =>
      match skipBlanks rest with
      | ']' :: rest => some (.array [], rest)
      | rest => (readItems fuel rest).map fun (items, rest) => (.array items, rest)
    | '"' :: rest => (readString rest).map fun (value, rest) => (.string value, rest)
    | 'n' :: _ => (after? "null".toList text).map (.null, ·)
    | 't' :: _ => (after? "true".toList text).map (.bool true, ·)
    | 'f' :: _ => (after? "false".toList text).map (.bool false, ·)
    | 'N' :: _ => (after? "NaN".toList text).map (.float (0.0 / 0.0), ·)
    | 'I' :: _ => (after? "Infinity".toList text).map (.float (1.0 / 0.0), ·)
    | '-' :: 'I' :: _ => (after? "-Infinity".toList text).map (.float (-1.0 / 0.0), ·)
    | '-' :: rest => readNumber true rest
    | text => readNumber false text

/-- The items of an array that is not empty, up to its closing bracket. -/
def readItems : Nat → List Char → Option (List Json × List Char)
  | 0, _ => none
  | fuel + 1, text => do
    let (item, rest) ← readValue fuel text
    match skipBlanks rest with
    | ',' :: rest =>
      let (items, rest) ← readItems fuel rest
      return (item :: items, rest)
    | ']' :: rest => return ([item], rest)
    | _ => none

/-- The members of an object that is not empty, up to its closing brace. -/
def readMembers : Nat → List Char → Option (Members × List Char)
  | 0, _ => none
  | fuel + 1, text => do
    let '"' :: rest := skipBlanks text | none
    let (name, rest) ← readString rest
    let ':' :: rest := skipBlanks rest | none
    let (value, rest) ← readValue fuel rest
    match skipBlanks rest with
    | ',' :: rest =>
      let (members, rest) ← readMembers fuel rest
      return ((name, value) :: members, rest)
    | '}' :: rest => return ([(name, value)], rest)
    | _ => none

end

/-- One value, with nothing but blanks around it. -/
def parse? (text : List Char) : Option Json := do
  let (value, rest) ← readValue (2 * text.length + 2) text
  if (skipBlanks rest).isEmpty then some value else none

end ImageVault.Json
