/-!
# Defects of files

What a reader can stumble over. Some defects a reader finds by looking for them, others befall
it: a field that is cut short, a place that is not there, data that does not inflate. Who
reads decides what becomes of a defect; one that nobody catches passes through all of decoding.

A file is read in two phases. Opening it finds its extent, and what befalls the reader then
only says that the file is not of that format. Loading it decodes its pixels and whatever
follows them. Only while more of the pixel data is fetched, a reader that lacks something says
that the file breaks off; what befalls it behind the pixel data is not forgiven.
-/
namespace ImageVault.Raster

inductive Defect where
  /-- The file is of no known format. -/
  | unidentified
  | tooManyPixels
  /-- The file breaks off, or its coded data is wrong. -/
  | broken
  | badValue
  | malformed
  /-- A number has fewer bytes than it takes. -/
  | shortField
  /-- A byte is looked at that is not there. -/
  | noSuchPlace
  /-- Something is looked for up to the end of the file. -/
  | endOfData
  | notInflatable
  deriving DecidableEq, Repr

namespace Defect

/-- Defects that only say, while a file is opened, that it is not of the format. -/
def isForgivenAtOpening : Defect → Bool
  | malformed => true
  | shortField => true
  | noSuchPlace => true
  | endOfData => true
  | _ => false

/-- Defects that say, while more pixel data is fetched, that the file breaks off. -/
def isTruncation : Defect → Bool
  | shortField => true
  | noSuchPlace => true
  | _ => false

/-- Defects that decoding is prepared for. -/
def isForeseen : Defect → Bool
  | unidentified => true
  | tooManyPixels => true
  | broken => true
  | badValue => true
  | malformed => true
  | _ => false

end Defect

section

variable {α : Type}

def demand (defect : Defect) (condition : Bool) : Except Defect Unit :=
  if condition then .ok () else .error defect

def orDefect (defect : Defect) : Option α → Except Defect α
  | some value => .ok value
  | none => .error defect

/-- Reads on with `instead` after a defect that is caught; others pass. -/
def recover (caught : Defect → Bool) (instead : Except Defect α) :
    Except Defect α → Except Defect α
  | .ok value => .ok value
  | .error defect => if caught defect then instead else .error defect

end

end ImageVault.Raster
