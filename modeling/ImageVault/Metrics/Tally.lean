/-!
# Tallies

A tally counts by label. A label appears once it has been counted.
-/
namespace ImageVault

structure Tally (κ : Type) where
  entries : List (κ × Nat)

namespace Tally

variable {κ : Type} [DecidableEq κ]

def empty : Tally κ := ⟨[]⟩

def count (tally : Tally κ) (label : κ) : Nat :=
  (tally.entries.find? (·.1 = label)).elim 0 (·.2)

def bump (label : κ) : List (κ × Nat) → List (κ × Nat)
  | [] => [(label, 1)]
  | (key, count) :: rest =>
    if key = label then (key, count + 1) :: rest else (key, count) :: bump label rest

def increment (tally : Tally κ) (label : κ) : Tally κ :=
  ⟨bump label tally.entries⟩

end Tally

end ImageVault
