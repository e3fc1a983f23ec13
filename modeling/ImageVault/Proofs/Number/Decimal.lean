import Mathlib.Logic.Function.Basic
import ImageVault.Number.Decimal

/-!
# Whole numbers, told apart by their text

Different numbers have different texts, and none of these holds an underscore. The digits of a
number read back as that number.
-/

namespace ImageVault.Number

theorem natText_injective : Function.Injective natText := by
  intro m n same
  calc
    m = Nat.ofDigitChars 10 (natText m) 0 := Nat.ofDigitChars_ten_toDigits.symm
    _ = Nat.ofDigitChars 10 (natText n) 0 := by rw [same]
    _ = n := Nat.ofDigitChars_ten_toDigits

theorem isDigit_of_mem_natText {n : Nat} {c : Char} (member : c ∈ natText n) : c.isDigit = true :=
  Nat.isDigit_of_mem_toDigits (by decide) (by decide) member

theorem minus_not_mem_natText (n : Nat) : '-' ∉ natText n :=
  fun member => absurd (isDigit_of_mem_natText member) (by decide)

/-- A minus sign tells the negative numbers from the others. -/
theorem intText_injective : Function.Injective intText := by
  intro m n same
  match m, n with
  | .ofNat m, .ofNat n => rw [natText_injective same]
  | .ofNat m, .negSucc n =>
    have signed : '-' ∈ natText m := by
      rw [show natText m = '-' :: natText (n + 1) from same]
      exact List.mem_cons_self
    exact absurd signed (minus_not_mem_natText m)
  | .negSucc m, .ofNat n =>
    have signed : '-' ∈ natText n := by
      rw [← show '-' :: natText (m + 1) = natText n from same]
      exact List.mem_cons_self
    exact absurd signed (minus_not_mem_natText n)
  | .negSucc m, .negSucc n =>
    have magnitudes := natText_injective (List.cons.inj same).2
    rw [Nat.succ.inj magnitudes]

theorem underscore_not_mem_intText (n : Int) : '_' ∉ intText n := by
  cases n with
  | ofNat n => exact Nat.underscore_not_in_toDigits
  | negSucc n =>
    intro member
    rcases List.mem_cons.mp member with sign | digit
    · exact absurd sign (by decide)
    · exact Nat.underscore_not_in_toDigits digit

/-! ### Digits that are read -/

theorem foldlM_of_digits {digits : List Char} (start : Nat)
    (each : ∀ c ∈ digits, c.isDigit = true) :
    digits.foldlM (fun total c => (digitValue? c).map (10 * total + ·)) start =
      some (Nat.ofDigitChars 10 digits start) := by
  induction digits generalizing start with
  | nil => rw [Nat.ofDigitChars_nil, List.foldlM_nil, Option.pure_def]
  | cons c rest ih =>
    obtain ⟨first, others⟩ := List.forall_mem_cons.mp each
    simp only [List.foldlM_cons, digitValue?, first, if_true, Option.map_some,
      Nat.ofDigitChars_cons]
    exact ih _ others

theorem natOfDigits?_natText (n : Nat) : natOfDigits? (natText n) = some n := by
  have read := foldlM_of_digits 0 fun c => isDigit_of_mem_natText (n := n)
  unfold natOfDigits?
  split
  next empty => exact absurd empty Nat.toDigits_ne_nil
  next => rw [read, natText, Nat.ofDigitChars_ten_toDigits]

end ImageVault.Number
