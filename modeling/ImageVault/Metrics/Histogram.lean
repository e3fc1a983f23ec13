/-!
# Histograms

A histogram sorts observations into buckets by their upper bounds and adds them up. Each
observation is kept in the first bucket that it fits into, or beyond all of them; the
cumulative counts, which are what is shown, follow from these.
-/
namespace ImageVault

structure Histogram (α : Type) where
  buckets : List (α × Nat)
  beyond : Nat
  sum : α

namespace Histogram

variable {α : Type}

/-- No observations, with the given upper bounds. -/
def ofBounds (bounds : List α) (zero : α) : Histogram α :=
  ⟨bounds.map (·, 0), 0, zero⟩

variable [LE α] [DecidableLE α] [Add α]

/-- Puts a value into the first bucket whose bound it does not exceed. -/
def place (value : α) : List (α × Nat) → Option (List (α × Nat))
  | [] => none
  | (bound, count) :: rest =>
    if value ≤ bound then some ((bound, count + 1) :: rest)
    else (place value rest).map ((bound, count) :: ·)

def observe (histogram : Histogram α) (value : α) : Histogram α :=
  let sum := histogram.sum + value
  match place value histogram.buckets with
  | some buckets => { histogram with buckets, sum }
  | none => { histogram with beyond := histogram.beyond + 1, sum }

omit [LE α] [DecidableLE α] [Add α]

def cumulativeFrom (total : Nat) : List (α × Nat) → List (α × Nat)
  | [] => []
  | (bound, count) :: rest => (bound, total + count) :: cumulativeFrom (total + count) rest

/-- For each bound, the number of observations that do not exceed it. -/
def cumulative (histogram : Histogram α) : List (α × Nat) :=
  cumulativeFrom 0 histogram.buckets

def count (histogram : Histogram α) : Nat :=
  (histogram.buckets.map (·.2)).foldr (· + ·) histogram.beyond

end Histogram

end ImageVault
