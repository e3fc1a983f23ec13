import ImageVault.Number.Binary64
import ImageVault.Number.Decimal

/-!
# Shortest decimal text of a double

Among the decimals that read back as the double, the text has the fewest digits, and of
those the nearest to the exact value. For each number of digits only the two neighbours of
the value on that decimal grid have to be tried: if any point of the grid reads back, one
of them does.

The text is positional from one ten-thousandth up to below ten to the sixteenth, and in
scientific form with at least two exponent digits outside.
-/
namespace ImageVault.Number

/-- The decimal `digits * 10 ^ exponent`. -/
structure Decimal where
  digits : Nat
  exponent : Int

/-- The least `order` such that the positive fraction lies below `10 ^ order`. -/
def decimalOrder (numerator denominator : Nat) : Int :=
  if denominator ≤ numerator then (Nat.toDigits 10 (numerator / denominator)).length
  else
    let reciprocal := (denominator + numerator - 1) / numerator
    1 - ((Nat.toDigits 10 (reciprocal - 1)).length : Int)

/-- The positive reals that round to one double, scaled by a common denominator. -/
structure RoundingInterval where
  lower : Nat
  centre : Nat
  upper : Nat
  denominator : Nat
  closed : Bool

def RoundingInterval.ofBinary64 (x : Binary64) : RoundingInterval :=
  let (unit, denominator) := Binary64.scaledFraction { x with significand := 1 } 1
  { lower := (4 * x.significand - (if x.isBoundary then 1 else 2)) * unit
    centre := 4 * x.significand * unit
    upper := (4 * x.significand + 2) * unit
    denominator := 4 * denominator
    closed := x.significand % 2 == 0 }

/-- Whether the decimal rounds to the double of the interval. -/
def RoundingInterval.holds (interval : RoundingInterval) (value : Decimal) : Bool :=
  let up := Nat.pow 10 value.exponent.toNat
  let down := Nat.pow 10 (-value.exponent).toNat
  let point := value.digits * up * interval.denominator
  if interval.closed then interval.lower * down ≤ point && point ≤ interval.upper * down
  else interval.lower * down < point && point < interval.upper * down

/-- The grid point with `count` digits that reads back, the nearer of two such points. -/
def RoundingInterval.onGrid? (interval : RoundingInterval) (count : Nat) : Option Decimal :=
  let exponent := decimalOrder interval.centre interval.denominator - count
  let numerator := interval.centre * Nat.pow 10 (-exponent).toNat
  let denominator := interval.denominator * Nat.pow 10 exponent.toNat
  let below : Decimal := ⟨numerator / denominator, exponent⟩
  let above : Decimal := ⟨numerator / denominator + 1, exponent⟩
  let twice := 2 * (numerator % denominator)
  match interval.holds below, interval.holds above with
  | true, true =>
    if twice < denominator || (twice = denominator && below.digits % 2 = 0) then some below
    else some above
  | true, false => some below
  | false, true => some above
  | false, false => none

/-- Seventeen digits always suffice. -/
def shortestDecimal (x : Binary64) : Decimal :=
  let interval := RoundingInterval.ofBinary64 x
  ((List.range 17).findSome? fun fewer => interval.onGrid? (fewer + 1)).getD ⟨0, 0⟩

/-- The digits and the place of the point: the value is `0.digits * 10 ^ place`. -/
def significantDigits (x : Binary64) : List Char × Int :=
  if x.significand = 0 then (['0'], 1)
  else
    let decimal := shortestDecimal x
    let digits := natText decimal.digits
    (((digits.reverse.dropWhile (· == '0')).reverse), digits.length + decimal.exponent)

def positional (digits : List Char) (place : Int) : List Char :=
  if place ≤ 0 then '0' :: '.' :: List.replicate (-place).toNat '0' ++ digits
  else if digits.length ≤ place.toNat then
    digits ++ List.replicate (place.toNat - digits.length) '0' ++ ['.', '0']
  else digits.take place.toNat ++ '.' :: digits.drop place.toNat

def scientific (digits : List Char) (place : Int) : List Char :=
  let exponent := place - 1
  let magnitude := natText exponent.natAbs
  let fraction := digits.drop 1
  digits.take 1 ++ (if fraction.isEmpty then [] else '.' :: fraction)
    ++ ['e', if exponent < 0 then '-' else '+']
    ++ List.replicate (2 - magnitude.length) '0' ++ magnitude

def floatText (x : Float) : List Char :=
  match Binary64.ofFloat? x with
  | none =>
    if x.isNaN then "nan".toList
    else if x < 0 then "-inf".toList
    else "inf".toList
  | some exact =>
    let (digits, place) := significantDigits exact
    let text :=
      if -4 < place && place ≤ 16 then positional digits place else scientific digits place
    if exact.negative then '-' :: text else text

end ImageVault.Number
