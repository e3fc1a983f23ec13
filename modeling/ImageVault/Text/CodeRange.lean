/-!
# Classes of characters

A class is a list of closed intervals of code points.
-/
namespace ImageVault.Text

abbrev CodeRanges := List (Nat × Nat)

def CodeRanges.covers (ranges : CodeRanges) (c : Char) : Bool :=
  ranges.any fun range => range.1 ≤ c.toNat && c.toNat ≤ range.2

end ImageVault.Text
