import ImageVault.Number.Lenient
import ImageVault.Proofs.Number.Decimal

/-!
# Plain digits in generous notation

Digits alone take no liberty of the notation: nothing is removed from them, and they are read
as the number that they spell.
-/

namespace ImageVault.Number

theorem ungroup_of_digits {digits : List Char} (afterDigit : Bool)
    (each : ∀ c ∈ digits, c.isDigit = true) : ungroup afterDigit digits = some digits := by
  induction digits generalizing afterDigit with
  | nil => rfl
  | cons c rest ih =>
    obtain ⟨first, others⟩ := List.forall_mem_cons.mp each
    have other : c ≠ '_' := by
      rintro rfl
      cases first
    rw [ungroup, ih _ others, Option.map_some]
    · exact fun _ _ same _ => other same
    · exact fun same _ => other same

theorem splitSign_of_digits {digits : List Char} (each : ∀ c ∈ digits, c.isDigit = true) :
    splitSign digits = (false, digits) := by
  unfold splitSign
  split
  next => exact absurd (each '-' List.mem_cons_self) (by decide)
  next => exact absurd (each '+' List.mem_cons_self) (by decide)
  next => rfl

theorem lenientInt?_natText (n : Nat) : lenientInt? (natText n) = some (n : Int) := by
  have digits : ∀ c ∈ natText n, c.isDigit = true := fun _ => isDigit_of_mem_natText
  simp [lenientInt?, ungroup_of_digits false digits, splitSign_of_digits digits,
    natOfDigits?_natText]

end ImageVault.Number
