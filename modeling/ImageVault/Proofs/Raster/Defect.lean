import ImageVault.Proofs.Outcome
import ImageVault.Raster.Defect

/-!
# Which defects a reader ends with

A class of defects bounds a reader if the reader ends with no other defect. Steps in a row
are bounded by what bounds each of them, and catching some defects leaves the others.
-/

namespace ImageVault.Raster

variable {α β : Type}

/-- If the reader ends with a defect, it is one of these. -/
def Raises (allowed : Defect → Bool) (reader : Except Defect α) : Prop :=
  ∀ defect, reader = .error defect → allowed defect = true

namespace Defect

attribute [simp] isForgivenAtOpening isTruncation isForeseen

/-- Defects that may come up while a file is opened: opening or decoding deals with them. -/
@[simp]
def mayOpen (defect : Defect) : Bool :=
  defect.isForgivenAtOpening || defect.isForeseen

end Defect

variable {allowed larger : Defect → Bool} {defect : Defect} {reader : Except Defect α}

theorem Raises.mono (raises : Raises allowed reader)
    (included : ∀ defect, allowed defect = true → larger defect = true) : Raises larger reader :=
  fun defect ended => included defect (raises defect ended)

/-- What is caught on the way comes on top of what a reader ends with anyway. -/
theorem Raises.catching (raises : Raises allowed reader) (caught : Defect → Bool) :
    Raises (fun defect => caught defect || allowed defect) reader :=
  raises.mono fun _ one => Bool.or_eq_true_iff.mpr (Or.inr one)

/-- A reader that decoding is prepared for may also open a file. -/
theorem Raises.opens (raises : Raises Defect.isForeseen reader) :
    Raises Defect.mayOpen reader :=
  raises.catching Defect.isForgivenAtOpening

@[simp]
theorem raises_ok (value : α) : Raises allowed (.ok value) :=
  fun _ ended => by cases ended

@[simp]
theorem raises_error_iff (defect : Defect) :
    Raises allowed (.error defect : Except Defect α) ↔ allowed defect = true := by
  constructor
  · exact fun raises => raises defect rfl
  · rintro one _ ⟨⟩
    exact one

@[simp]
theorem raises_bind_iff (next : α → Except Defect β) :
    Raises allowed (reader >>= next) ↔
      Raises allowed reader ∧ ∀ value, reader = .ok value → Raises allowed (next value) := by
  cases reader with
  | ok value => simp
  | error defect => simp

@[simp]
theorem raises_map_iff (f : α → β) : Raises allowed (reader.map f) ↔ Raises allowed reader := by
  cases reader <;> simp [Except.map]

@[simp]
theorem raises_ite_iff (condition : Prop) [Decidable condition] (other : Except Defect α) :
    Raises allowed (if condition then reader else other) ↔
      (condition → Raises allowed reader) ∧ (¬condition → Raises allowed other) := by
  split <;> simp_all

@[simp]
theorem raises_demand_iff (condition : Bool) :
    Raises allowed (demand defect condition) ↔ condition = true ∨ allowed defect = true := by
  cases condition <;> simp [demand]

@[simp]
theorem raises_orDefect_iff (found : Option α) :
    Raises allowed (orDefect defect found) ↔ found.isSome = true ∨ allowed defect = true := by
  cases found <;> simp [orDefect]

theorem raises_demand (one : allowed defect = true) (condition : Bool) :
    Raises allowed (demand defect condition) :=
  (raises_demand_iff condition).mpr (Or.inr one)

theorem raises_orDefect (one : allowed defect = true) (found : Option α) :
    Raises allowed (orDefect defect found) :=
  (raises_orDefect_iff found).mpr (Or.inr one)

/-- What is caught need not be allowed. -/
theorem Raises.recover {caught : Defect → Bool} {instead : Except Defect α}
    (raises : Raises (fun defect => caught defect || allowed defect) reader)
    (continued : Raises allowed instead) : Raises allowed (recover caught instead reader) := by
  cases reader with
  | ok value => exact raises_ok value
  | error defect =>
    have either := (raises_error_iff defect).mp raises
    rw [Raster.recover, raises_ite_iff]
    refine ⟨fun _ => continued, fun uncaught => ?_⟩
    simpa [uncaught] using either

/-! ### Readers that end with a value -/

theorem demand_eq_ok_iff (condition : Bool) (done : Unit) :
    demand defect condition = .ok done ↔ condition = true := by
  cases condition <;> simp [demand]

/-- Renaming defects makes no values. -/
theorem recover_error_eq_ok_iff (caught : Defect → Bool) (value : α) :
    recover caught (.error defect) reader = .ok value ↔ reader = .ok value := by
  cases reader with
  | ok value => simp [recover]
  | error other => by_cases hit : caught other <;> simp [recover, hit]

end ImageVault.Raster
