import Mathlib.Algebra.GroupWithZero.Nat
import Mathlib.Order.Basic
import ImageVault.Proofs.Metrics.Series

/-!
# What tallies and histograms count

A tally counts each label by itself. A histogram with ascending bounds counts for each bound
the values that do not exceed it, although it keeps every value in one bucket only.
-/

namespace ImageVault

/-! ### Tallies -/

namespace Tally

variable {κ : Type} [DecidableEq κ]

theorem bump_eq_update (label : κ) (entries : List (κ × Nat)) :
    bump label entries = Series.update label 1 (· + 1) entries := by
  induction entries with
  | nil => rfl
  | cons entry rest ih => rw [bump, Series.update, ih]

theorem count_increment (tally : Tally κ) (label other : κ) :
    (tally.increment label).count other = tally.count other + if label = other then 1 else 0 := by
  have counted : Series.value id (Series.update label 1 (· + 1) tally.entries) other =
      Series.value id tally.entries other + if label = other then 1 else 0 := by
    apply Series.value_update
    · rfl
    · exact fun _ => rfl
  rw [← bump_eq_update] at counted
  exact counted

theorem counts_increment {tally : Tally κ} {seen : List κ}
    (counted : Series.Counts id tally.entries seen) (label : κ) :
    Series.Counts id (tally.increment label).entries (seen ++ [label]) := by
  rw [increment, bump_eq_update]
  apply counted.update
  · rfl
  · exact fun _ => rfl

end Tally

/-! ### Histograms -/

namespace Histogram

section Buckets

variable {α : Type}

/-- A larger start shows in every cumulative count. -/
theorem cumulativeFrom_succ (total : Nat) (buckets : List (α × Nat)) :
    cumulativeFrom (total + 1) buckets =
      (cumulativeFrom total buckets).map fun (bound, count) => (bound, count + 1) := by
  induction buckets generalizing total with
  | nil => rfl
  | cons bucket rest ih =>
    obtain ⟨bound, count⟩ := bucket
    have next : total + 1 + count = total + count + 1 := by omega
    rw [cumulativeFrom, cumulativeFrom, List.map_cons, next, ih]

theorem cumulativeFrom_bounds (total : Nat) (buckets : List (α × Nat)) :
    (cumulativeFrom total buckets).map (·.1) = buckets.map (·.1) := by
  induction buckets generalizing total with
  | nil => rfl
  | cons bucket rest ih => rw [cumulativeFrom, List.map_cons, List.map_cons, ih]

/-- What the bucket without a bound shows: all that is in the buckets and beyond them. -/
def unbounded (histogram : Histogram α) : Nat :=
  (histogram.buckets.map (·.2)).sum + histogram.beyond

theorem unbounded_eq_count (histogram : Histogram α) : histogram.unbounded = histogram.count := by
  have folded : ∀ (counts : List Nat) (beyond : Nat),
      counts.sum + beyond = counts.foldr (· + ·) beyond := by
    intro counts beyond
    induction counts with
    | nil => exact Nat.zero_add beyond
    | cons count rest ih => rw [List.sum_cons, List.foldr_cons, ← ih, Nat.add_assoc]
  exact folded _ histogram.beyond

/-- Every bucket adds to those before it, and none holds more than all together. -/
theorem cumulativeFrom_ascending (total : Nat) (buckets : List (α × Nat)) :
    ((cumulativeFrom total buckets).map (·.2)).Pairwise (· ≤ ·) ∧
      ∀ count ∈ (cumulativeFrom total buckets).map (·.2),
        total ≤ count ∧ count ≤ total + (buckets.map (·.2)).sum := by
  -- Each bucket starts where the one before it ended, so the total so far is kept general.
  induction buckets generalizing total with
  | nil => exact ⟨List.Pairwise.nil, fun count member => by cases member⟩
  | cons bucket rest ih =>
    obtain ⟨bound, here⟩ := bucket
    obtain ⟨ascending, between⟩ := ih (total + here)
    rw [cumulativeFrom, List.map_cons, List.map_cons, List.sum_cons]
    constructor
    · refine List.pairwise_cons.mpr ⟨fun count member => ?_, ascending⟩
      exact (between count member).1
    · refine List.forall_mem_cons.mpr ⟨?_, fun count member => ?_⟩
      · dsimp only
        omega
      · have bounds := between count member
        omega

theorem cumulative_ascending (histogram : Histogram α) :
    (histogram.cumulative.map (·.2) ++ [histogram.unbounded]).Pairwise (· ≤ ·) := by
  obtain ⟨ascending, between⟩ := cumulativeFrom_ascending 0 histogram.buckets
  refine List.pairwise_append.mpr ⟨ascending, List.pairwise_singleton _ _, ?_⟩
  intro count member last same
  rw [List.mem_singleton.mp same]
  have bounds := between count member
  unfold unbounded
  omega

end Buckets

section Ordered

variable {α : Type} [LE α] [DecidableLE α]

theorem observe_buckets [Add α] (histogram : Histogram α) (value : α) :
    (histogram.observe value).buckets =
      (place value histogram.buckets).getD histogram.buckets := by
  unfold observe
  cases place value histogram.buckets <;> rfl

theorem place_total {value : α} {buckets placed : List (α × Nat)}
    (found : place value buckets = some placed) :
    (placed.map (·.2)).sum = (buckets.map (·.2)).sum + 1 := by
  induction buckets generalizing placed with
  | nil => cases found
  | cons bucket rest ih =>
    obtain ⟨bound, count⟩ := bucket
    rw [place] at found
    split at found
    · cases found
      simp only [List.map_cons, List.sum_cons]
      omega
    · obtain ⟨later, stored, rfl⟩ := Option.map_eq_some_iff.mp found
      simp only [List.map_cons, List.sum_cons, ih stored]
      omega

theorem observe_count [Add α] (histogram : Histogram α) (value : α) :
    (histogram.observe value).count = histogram.count + 1 := by
  rw [← unbounded_eq_count, ← unbounded_eq_count]
  unfold observe unbounded
  split
  next placed found =>
    have total := place_total found
    dsimp only
    omega
  next =>
    dsimp only
    omega

theorem place_bounds {value : α} {buckets placed : List (α × Nat)}
    (found : place value buckets = some placed) : placed.map (·.1) = buckets.map (·.1) := by
  induction buckets generalizing placed with
  | nil => cases found
  | cons bucket rest ih =>
    rw [place] at found
    split at found
    · cases found
      rfl
    · obtain ⟨later, stored, rfl⟩ := Option.map_eq_some_iff.mp found
      rw [List.map_cons, List.map_cons, ih stored]

theorem observe_bounds [Add α] (histogram : Histogram α) (value : α) :
    (histogram.observe value).buckets.map (·.1) = histogram.buckets.map (·.1) := by
  rw [observe_buckets]
  cases found : place value histogram.buckets with
  | none => rfl
  | some placed => exact place_bounds found

end Ordered

variable {α : Type} [Preorder α] [DecidableLE α]

/-- One more for every bound that the value does not exceed. -/
def raise (value : α) (counts : List (α × Nat)) : List (α × Nat) :=
  counts.map fun entry => (entry.1, entry.2 + if value ≤ entry.1 then 1 else 0)

theorem raise_of_le {value : α} {counts : List (α × Nat)}
    (fits : ∀ bound ∈ counts.map (·.1), value ≤ bound) :
    raise value counts = counts.map fun (bound, count) => (bound, count + 1) := by
  refine List.map_congr_left fun entry member => ?_
  rw [if_pos (fits entry.1 (List.mem_map_of_mem member))]

/-- Whichever bucket takes the value, if any, it counts for the bounds from there on. -/
theorem cumulativeFrom_place (value : α) (total : Nat) (buckets : List (α × Nat))
    (ascending : (buckets.map (·.1)).Pairwise (· ≤ ·)) :
    cumulativeFrom total ((place value buckets).getD buckets) =
      raise value (cumulativeFrom total buckets) := by
  induction buckets generalizing total with
  | nil => rfl
  | cons bucket rest ih =>
    obtain ⟨bound, count⟩ := bucket
    rw [List.map_cons, List.pairwise_cons] at ascending
    rw [place]
    split
    next fits =>
      -- The bounds behind this one are at least as large, so the value fits there as well.
      have later : ∀ other ∈ (cumulativeFrom (total + count) rest).map (·.1), value ≤ other := by
        intro other member
        rw [cumulativeFrom_bounds] at member
        exact fits.trans (ascending.1 other member)
      have next : total + (count + 1) = total + count + 1 := by omega
      rw [Option.getD_some, cumulativeFrom, cumulativeFrom, next, cumulativeFrom_succ,
        ← raise_of_le later]
      simp [raise, fits]
    next exceeds =>
      have kept : ((place value rest).map ((bound, count) :: ·)).getD ((bound, count) :: rest) =
          (bound, count) :: (place value rest).getD rest := by
        cases place value rest <;> rfl
      rw [kept, cumulativeFrom, cumulativeFrom, ih _ ascending.2]
      simp [raise, exceeds]

/-- The histogram shows these values under these bounds. -/
structure Shows (bounds values : List α) (histogram : Histogram α) : Prop where
  counts : histogram.cumulative = bounds.map fun bound => (bound, values.countP (· ≤ bound))
  total : histogram.count = values.length

theorem shows_nothing (bounds : List α) (zero : α) : Shows bounds [] (ofBounds bounds zero) where
  counts := by
    simp only [cumulative, ofBounds, List.countP_nil]
    induction bounds with
    | nil => rfl
    | cons bound rest ih => rw [List.map_cons, cumulativeFrom, Nat.add_zero, ih]
  total := by
    simp only [count, ofBounds, List.length_nil]
    induction bounds with
    | nil => rfl
    | cons bound rest ih => simpa using ih

theorem Shows.observe [Add α] {bounds values : List α} {histogram : Histogram α}
    (shown : Shows bounds values histogram) (ascending : bounds.Pairwise (· ≤ ·)) (value : α) :
    Shows bounds (values ++ [value]) (histogram.observe value) where
  counts := by
    have listed : (cumulativeFrom 0 histogram.buckets).map (·.1) = _ :=
      congrArg (List.map (·.1)) shown.counts
    have same : histogram.buckets.map (·.1) = bounds := by
      rw [cumulativeFrom_bounds, List.map_map] at listed
      exact listed.trans (List.map_id' bounds)
    have raised : (histogram.observe value).cumulative = raise value histogram.cumulative := by
      have placed := cumulativeFrom_place value 0 histogram.buckets (same ▸ ascending)
      rwa [← observe_buckets] at placed
    rw [raised, shown.counts]
    simp [raise, List.countP_append, List.countP_singleton]
  total := by
    rw [observe_count, shown.total, List.length_append, List.length_singleton]

end Histogram

end ImageVault
