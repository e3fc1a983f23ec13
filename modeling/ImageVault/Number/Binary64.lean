/-!
# Double-precision numbers as exact fractions

A finite double is a whole significand times a power of two. Every exact statement about a
double (its shortest text, its rounding, whether it is whole) starts from this form.
-/
namespace ImageVault

/-- The number `± significand * 2 ^ exponent`. -/
structure Binary64 where
  negative : Bool
  significand : Nat
  exponent : Int

namespace Binary64

/-- Infinities and undefined values have no exact form. -/
def ofFloat? (x : Float) : Option Binary64 :=
  let bits := x.toBits.toNat
  let negative := bits >>> 63 == 1
  let biased : Nat := (bits >>> 52) % 2048
  let fraction : Nat := bits % (1 <<< 52)
  if biased = 2047 then none
  else if biased = 0 then some ⟨negative, fraction, -1074⟩
  else some ⟨negative, fraction + (1 <<< 52), Int.ofNat biased - 1075⟩

/-- Above a power of two the doubles lie twice as far apart as below it. -/
def isBoundary (x : Binary64) : Bool :=
  x.significand == 1 <<< 52 && x.exponent > -1074

/-- The absolute value times `scale`, as a numerator and a denominator. -/
def scaledFraction (x : Binary64) (scale : Nat) : Nat × Nat :=
  if 0 ≤ x.exponent then ((x.significand * scale) <<< x.exponent.toNat, 1)
  else (x.significand * scale, 1 <<< (-x.exponent).toNat)

/-- The value, when it is a whole number. -/
def toInt? (x : Binary64) : Option Int :=
  let (numerator, denominator) := x.scaledFraction 1
  if numerator % denominator = 0 then
    let magnitude : Int := (numerator / denominator : Nat)
    some (if x.negative then -magnitude else magnitude)
  else none

end Binary64

end ImageVault
