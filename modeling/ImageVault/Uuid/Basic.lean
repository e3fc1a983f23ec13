import ImageVault.Text.Hex

/-!
# Identifiers

An identifier is a number of 128 bits. Its canonical text is its 32 digits in lower case,
grouped 8-4-4-4-12 by hyphens.
-/
namespace ImageVault

structure Uuid where
  number : Fin (1 <<< 128)
  deriving DecidableEq

namespace Uuid

/-- There are identifiers, so a numeral stands for one. The zero is that of numerals, whatever
algebra is imported. -/
instance number_bound_ne_zero : @NeZero Nat Zero.ofOfNat0 (1 <<< 128) :=
  ⟨by decide⟩

def ofNat? (number : Nat) : Option Uuid :=
  if bound : number < 1 <<< 128 then some ⟨⟨number, bound⟩⟩ else none

/-- The 32 digits without separators. -/
def digits (id : Uuid) : List Char :=
  Text.hexPadded 32 id.number

/-- Hyphens after the digits 8, 12, 16 and 20. -/
def hyphenate (digits : List Char) : List Char :=
  digits.take 8 ++ '-' :: (digits.drop 8).take 4 ++ '-' :: (digits.drop 12).take 4
    ++ '-' :: (digits.drop 16).take 4 ++ '-' :: digits.drop 20

def chars (id : Uuid) : List Char :=
  hyphenate id.digits

def text (id : Uuid) : String :=
  String.ofList id.chars

end Uuid

end ImageVault
