import ImageVault.Number.Decimal
import ImageVault.Text.Blank

/-!
# Whole numbers written as text

Around the number white space does not count. A plain number has an optional minus sign and
no needless zeros. Failing that, three liberties are taken together: a plus sign and leading
zeros are dropped, a fraction of zeros is dropped, and single underscores between digits are
ignored. Numbers of more than 4300 digits are refused for their size.
-/
namespace ImageVault.Schema

/-- The separators of information count as blanks elsewhere, but not here. -/
def isWhiteSpace (c : Char) : Bool :=
  Text.isBlank c && !(0x1C ≤ c.toNat && c.toNat ≤ 0x1F)

def trimWhiteSpace (text : List Char) : List Char :=
  ((text.dropWhile isWhiteSpace).reverse.dropWhile isWhiteSpace).reverse

inductive IntegerFault where
  | unreadable
  | tooLong
  deriving DecidableEq, Repr

def digitLimit : Nat := 4300

/-- Digits without a needless zero. -/
def readMagnitude (digits : List Char) : Except IntegerFault Nat :=
  if digits.head? = some '0' && digits.length ≠ 1 then .error .unreadable
  else
    match Number.natOfDigits? digits with
    | none => .error .unreadable
    | some magnitude => if digitLimit < digits.length then .error .tooLong else .ok magnitude

def readPlain : List Char → Except IntegerFault Int
  | '-' :: digits => (readMagnitude digits).map fun magnitude => -magnitude
  | digits => (readMagnitude digits).map fun magnitude => magnitude

/-- A plus sign is dropped, unless a minus sign follows. -/
def dropPlus : List Char → Option (List Char)
  | '+' :: '-' :: _ => none
  | '+' :: rest => some rest
  | text => some text

/-- What follows leading zeros. Underscores among them count as zeros; one zero stays in
front of a fraction and at the end of the text. -/
def afterZeros (last : Char) : List Char → Option (List Char)
  | [] => some [last]
  | c :: rest =>
    if c = '0' || c = '_' then afterZeros c rest
    else if c = '.' then some (last :: c :: rest)
    else if c.isDigit then some (c :: rest)
    else none

def dropZeros : List Char → Option (List Char)
  | '0' :: rest => afterZeros '0' rest
  | c :: rest => if c = '-' || c.isDigit then some (c :: rest) else none
  | [] => none

/-- A fraction that consists of zeros is dropped. -/
def dropFraction (text : List Char) : List Char :=
  match text.dropWhile (· ≠ '.') with
  | [] => text
  | _ :: fraction => if fraction.all (· == '0') then text.takeWhile (· ≠ '.') else text

/-- Whether an underscore starts the text, ends it or follows another one. -/
def hasStrayUnderscore : Bool → List Char → Bool
  | afterUnderscore, [] => afterUnderscore
  | afterUnderscore, c :: rest =>
    if c = '_' then afterUnderscore || hasStrayUnderscore true rest
    else hasStrayUnderscore false rest

def dropUnderscores (text : List Char) : Option (List Char) :=
  if text.contains '_' && hasStrayUnderscore true text then none
  else some (text.filter (· ≠ '_'))

/-- The plain form of a text that takes liberties. -/
def plainForm? (text : List Char) : Option (List Char) := do
  let unsigned ← dropPlus text
  let short ← dropZeros unsigned
  dropUnderscores (dropFraction short)

def readInteger (text : List Char) : Except IntegerFault Int :=
  let trimmed := trimWhiteSpace text
  match readPlain trimmed with
  | .error .unreadable =>
    match plainForm? trimmed with
    | some plain => readPlain plain
    | none => .error .unreadable
  | outcome => outcome

end ImageVault.Schema
