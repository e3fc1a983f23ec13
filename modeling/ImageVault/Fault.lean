import ImageVault.Failure
import ImageVault.Raster.Defect
import ImageVault.Schema.Defect
import ImageVault.Url.Basic

/-!
# Faults

What can go wrong in an operation: a failure of the pipeline, or something that no stage
expects and that therefore passes through all of them.
-/
namespace ImageVault

inductive Fault where
  | failure (failure : Failure)
  /-- A defect that decoding is not prepared for. That no file has one is for proofs to say; to
  decode is only to let it through. -/
  | raster (defect : Raster.Defect)
  | address (defect : Url.Defect)
  | integerRange
  | headerText
  | resource (reports : List Schema.Report)

end ImageVault
