import ImageVault.Metrics.Histogram
import ImageVault.Metrics.Tally

/-!
# Metrics

What is counted: requests by method, path label and status, how long they took, errors by
class, and for the pipeline its successes by media type, its failures by code, the sizes of
what was stored and the number of downloads.
-/
namespace ImageVault

structure Route where
  method : String
  path : String
  deriving DecidableEq, Repr

structure Answered where
  route : Route
  status : Nat
  deriving DecidableEq, Repr

/-- Classes of errors: statuses by their hundreds, and what ends without an answer. -/
inductive ErrorClass where
  | statusClass (hundreds : Nat)
  | exception
  deriving DecidableEq, Repr

structure Metrics where
  requests : Tally Answered
  durations : List (Route × Histogram Float)
  errors : Tally ErrorClass
  uploads : Tally String
  failures : Tally String
  sizes : Histogram Nat
  downloads : Nat

namespace Metrics

def sizeBounds : List Nat :=
  [1000, 10000, 50000, 100000, 250000, 500000, 1000000]

def durationBounds : List Float :=
  [0.005, 0.01, 0.025, 0.05, 0.1, 0.25, 0.5, 1.0, 2.5, 5.0, 10.0]

def zero : Metrics :=
  { requests := .empty
    durations := []
    errors := .empty
    uploads := .empty
    failures := .empty
    sizes := .ofBounds sizeBounds 0
    downloads := 0 }

def noDurations : Histogram Float :=
  .ofBounds durationBounds 0.0

/-- Adds a duration to the histogram of its route, which is made on first use. -/
def observeRoute (route : Route) (duration : Float) :
    List (Route × Histogram Float) → List (Route × Histogram Float)
  | [] => [(route, noDurations.observe duration)]
  | (key, histogram) :: rest =>
    if key = route then (key, histogram.observe duration) :: rest
    else (key, histogram) :: observeRoute route duration rest

def uploaded (metrics : Metrics) (mime : String) (size : Nat) : Metrics :=
  { metrics with uploads := metrics.uploads.increment mime, sizes := metrics.sizes.observe size }

def uploadFailed (metrics : Metrics) (code : String) : Metrics :=
  { metrics with failures := metrics.failures.increment code }

def downloaded (metrics : Metrics) : Metrics :=
  { metrics with downloads := metrics.downloads + 1 }

def errorClass? (status : Nat) : Option ErrorClass :=
  if 400 ≤ status then some (.statusClass (status / 100)) else none

/-- A request that was answered. -/
def answered (metrics : Metrics) (route : Route) (status : Nat) (duration : Float) : Metrics :=
  { metrics with
    requests := metrics.requests.increment ⟨route, status⟩
    durations := observeRoute route duration metrics.durations
    errors :=
      match errorClass? status with
      | some errorClass => metrics.errors.increment errorClass
      | none => metrics.errors }

/-- A request that ended without an answer. -/
def crashed (metrics : Metrics) : Metrics :=
  { metrics with errors := metrics.errors.increment .exception }

end Metrics

end ImageVault
