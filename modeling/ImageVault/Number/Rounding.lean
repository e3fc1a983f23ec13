import ImageVault.Number.Binary64

/-!
# Rounding to decimal places

The exact value of the double is rounded to the nearest multiple of the unit, a tie going
to the even multiple; the result is the double nearest to that decimal.
-/
namespace ImageVault.Number

/-- The quotient rounded to the nearest whole number, ties to the even one. -/
def roundQuotient (numerator denominator : Nat) : Nat :=
  let quotient := numerator / denominator
  let twice := 2 * (numerator % denominator)
  if twice < denominator then quotient
  else if denominator < twice then quotient + 1
  else quotient + quotient % 2

/-- A value that has no exact form is returned as it is. -/
def roundPlaces (places : Nat) (x : Float) : Float :=
  match Binary64.ofFloat? x with
  | none => x
  | some exact =>
    let (numerator, denominator) := exact.scaledFraction (Nat.pow 10 places)
    let magnitude := Float.ofScientific (roundQuotient numerator denominator) true places
    if exact.negative then -magnitude else magnitude

end ImageVault.Number
