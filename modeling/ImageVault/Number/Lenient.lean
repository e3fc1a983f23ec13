import ImageVault.Number.Decimal

/-!
# Generous decimal notation

Numbers as people type them: a sign of either kind, leading zeros, and single underscores
between digits. A number with a point or an exponent denotes the nearest double.
-/
namespace ImageVault.Number

/-- Removes underscores, each of which must stand between two digits. -/
def ungroup (afterDigit : Bool) : List Char → Option (List Char)
  | [] => some []
  | '_' :: c :: rest =>
    if afterDigit && c.isDigit then (ungroup true rest).map (c :: ·) else none
  | '_' :: [] => none
  | c :: rest => (ungroup c.isDigit rest).map (c :: ·)

/-- Whether a minus sign stands in front, and the text after a sign of either kind. -/
def splitSign : List Char → Bool × List Char
  | '-' :: rest => (true, rest)
  | '+' :: rest => (false, rest)
  | text => (false, text)

def lenientInt? (text : List Char) : Option Int := do
  let (negative, unsigned) := splitSign (← ungroup false text)
  let magnitude ← natOfDigits? unsigned
  return if negative then -magnitude else magnitude

/-- The exponent after its mark; no mark means none. -/
def exponentPart? : List Char → Option Int
  | [] => some 0
  | mark :: rest =>
    if mark = 'e' || mark = 'E' then do
      let (negative, unsigned) := splitSign rest
      let magnitude ← natOfDigits? unsigned
      return if negative then -magnitude else magnitude
    else none

/-- A finite decimal; digits may be missing on one side of the point. -/
def lenientFloat? (text : List Char) : Option Float := do
  let (negative, unsigned) := splitSign (← ungroup false text)
  let (whole, rest) := unsigned.span Char.isDigit
  let (places, rest) :=
    match rest with
    | '.' :: rest => rest.span Char.isDigit
    | rest => ([], rest)
  let digits ← natOfDigits? (whole ++ places)
  let exponent ← exponentPart? rest
  return floatOfDecimal negative digits (exponent - places.length)

end ImageVault.Number
