import Mathlib.Algebra.GroupWithZero.Nat
import ImageVault.Metrics

/-!
# Series by label

Tallies and histograms by route are both lists of entries, one for each label: an observation
changes the entry of its label, or adds one behind the others. What is counted in such a list
is stated once for all of them, given how much an entry counts for.
-/

namespace ImageVault.Series

variable {κ β : Type} [DecidableEq κ]

/-- Changes the entry of a label, which is made on first use. -/
def update (label : κ) (first : β) (change : β → β) : List (κ × β) → List (κ × β)
  | [] => [(label, first)]
  | (key, value) :: rest =>
    if key = label then (key, change value) :: rest
    else (key, value) :: update label first change rest

/-- How much the entry of a label counts for. -/
def value (amount : β → Nat) (entries : List (κ × β)) (label : κ) : Nat :=
  (entries.find? (·.1 = label)).elim 0 fun entry => amount entry.2

/-- How much the entries of certain labels count for together. -/
def total (amount : β → Nat) (entries : List (κ × β)) (counts : κ → Bool) : Nat :=
  ((entries.filter fun entry => counts entry.1).map fun entry => amount entry.2).sum

/-- The entries count the labels that were seen, each label in one entry. -/
structure Counts (amount : β → Nat) (entries : List (κ × β)) (seen : List κ) : Prop where
  single : (entries.map (·.1)).Nodup
  labels : ∀ label, label ∈ entries.map (·.1) ↔ label ∈ seen
  values : ∀ label, value amount entries label = seen.count label
  totals : ∀ counts, total amount entries counts = seen.countP counts

/-! ### One observation -/

variable {amount : β → Nat} {label : κ} {first : β} {change : β → β}

theorem labels_update (label : κ) (first : β) (change : β → β) (entries : List (κ × β)) :
    (update label first change entries).map (·.1) =
      if label ∈ entries.map (·.1) then entries.map (·.1)
      else entries.map (·.1) ++ [label] := by
  induction entries with
  | nil => rfl
  | cons entry rest ih =>
    obtain ⟨key, value⟩ := entry
    rw [update]
    by_cases hit : key = label
    · subst hit
      simp
    · have other : label ≠ key := fun same => hit same.symm
      rw [if_neg hit, List.map_cons, ih]
      by_cases known : label ∈ rest.map (·.1)
      · simp [known]
      · simp [known, other]

/-- What the values have in common is kept by an observation that keeps it. -/
theorem forall_update {holds : β → Prop} (starts : holds first)
    (kept : ∀ value, holds value → holds (change value)) {entries : List (κ × β)}
    (all : ∀ entry ∈ entries, holds entry.2) :
    ∀ entry ∈ update label first change entries, holds entry.2 := by
  induction entries with
  | nil =>
    intro entry member
    rw [List.mem_singleton.mp member]
    exact starts
  | cons entry rest ih =>
    obtain ⟨here, later⟩ := List.forall_mem_cons.mp all
    rw [update]
    split
    · exact List.forall_mem_cons.mpr ⟨kept entry.2 here, later⟩
    · exact List.forall_mem_cons.mpr ⟨here, ih later⟩

theorem value_update (once : amount first = 1)
    (more : ∀ value, amount (change value) = amount value + 1) (entries : List (κ × β))
    (other : κ) :
    value amount (update label first change entries) other =
      value amount entries other + if label = other then 1 else 0 := by
  induction entries with
  | nil => by_cases same : label = other <;> simp [value, update, same, once]
  | cons entry rest ih =>
    obtain ⟨key, counted⟩ := entry
    rw [update]
    by_cases hit : key = label
    · -- The label has its entry here, which may or may not be the one that is asked for.
      subst hit
      by_cases same : key = other <;> simp [value, same, more]
    · rw [if_neg hit]
      by_cases asked : key = other
      · have unchanged : label ≠ other := fun same => hit (asked.trans same.symm)
        simp [value, asked, unchanged]
      · simp only [value, List.find?_cons, asked, decide_false] at ih ⊢
        exact ih

theorem total_update (once : amount first = 1)
    (more : ∀ value, amount (change value) = amount value + 1) (entries : List (κ × β))
    (counts : κ → Bool) :
    total amount (update label first change entries) counts =
      total amount entries counts + if counts label then 1 else 0 := by
  induction entries with
  | nil => by_cases counted : counts label = true <;> simp [total, update, counted, once]
  | cons entry rest ih =>
    obtain ⟨key, counted⟩ := entry
    unfold total at ih ⊢
    rw [update]
    by_cases hit : key = label
    · -- The entry is changed in place, which the total shows only if its label is asked for.
      subst hit
      by_cases included : counts key = true
      · simp only [if_true, included, List.filter_cons, List.map_cons, List.sum_cons, more]
        omega
      · simp [included]
    · rw [if_neg hit]
      by_cases included : counts key = true
      · simp only [included, if_true, List.filter_cons, List.map_cons, List.sum_cons, ih]
        omega
      · simpa [included, List.filter_cons] using ih

/-! ### All observations -/

theorem counts_nothing (amount : β → Nat) : Counts amount ([] : List (κ × β)) [] where
  single := List.nodup_nil
  labels _ := Iff.rfl
  values _ := rfl
  totals _ := rfl

/-- An observation that counts for one adds its label to those that were seen. -/
theorem Counts.update {entries : List (κ × β)} {seen : List κ}
    (counted : Counts amount entries seen) (label : κ) (once : amount first = 1)
    (more : ∀ value, amount (change value) = amount value + 1) :
    Counts amount (Series.update label first change entries) (seen ++ [label]) where
  single := by
    rw [labels_update]
    split
    next => exact counted.single
    next unknown =>
      have alone : [label].Nodup := by simp
      refine List.nodup_append.mpr ⟨counted.single, alone, ?_⟩
      intro known member new same
      rw [List.mem_singleton.mp same]
      rintro rfl
      exact unknown member
  labels other := by
    rw [labels_update, List.mem_append, List.mem_singleton, ← counted.labels other]
    split
    next known =>
      -- The label has been seen before, so being seen once more adds nothing.
      constructor
      · exact Or.inl
      · rintro (member | rfl)
        · exact member
        · exact known
    next => rw [List.mem_append, List.mem_singleton]
  values other := by
    rw [value_update once more, counted.values other, List.count_append]
    by_cases same : label = other
    · simp [same]
    · simp [same]
  totals counts := by
    rw [total_update once more, counted.totals counts, List.countP_append,
      List.countP_singleton]

end ImageVault.Series
