/-!
# Decimal text of whole numbers

Whole numbers are written without leading zeros; a negative one starts with a minus sign.
Reading a double from its digits rounds the exact decimal to the nearest double.
-/
namespace ImageVault.Number

def natText (n : Nat) : List Char :=
  Nat.toDigits 10 n

def intText : Int → List Char
  | .ofNat n => natText n
  | .negSucc n => '-' :: natText (n + 1)

def digitValue? (c : Char) : Option Nat :=
  if c.isDigit then some (c.toNat - 0x30) else none

/-- The number that a non-empty list of decimal digits spells. -/
def natOfDigits? : List Char → Option Nat
  | [] => none
  | digits => digits.foldlM (fun total c => (digitValue? c).map (10 * total + ·)) 0

/-- Beyond every double, and below the least positive one, the digits no longer matter. -/
def floatOfDecimal (negative : Bool) (digits : Nat) (exponent : Int) : Float :=
  let order : Int := (Nat.toDigits 10 digits).length + exponent
  let magnitude :=
    if digits = 0 || order < -400 then 0.0
    else if order > 400 then 1.0 / 0.0
    else if 0 ≤ exponent then Float.ofScientific digits false exponent.toNat
    else Float.ofScientific digits true (-exponent).toNat
  if negative then -magnitude else magnitude

def floatOfInt (n : Int) : Float :=
  floatOfDecimal (n < 0) n.natAbs 0

end ImageVault.Number
