import ImageVault.Schema.Defect

/-!
# Checked values

A document is checked field by field. It is acceptable if every field is, and otherwise
the reports of all fields are kept, so that one defect does not hide another.
-/
namespace ImageVault.Schema

inductive Checked (α : Type) where
  | valid (value : α)
  | invalid (reports : List Report)

namespace Checked

variable {α β : Type}

def map (f : α → β) : Checked α → Checked β
  | valid value => valid (f value)
  | invalid reports => invalid reports

/-- Applies a checked function to a checked value; the reports of both are kept. -/
def apply : Checked (α → β) → Checked α → Checked β
  | valid f, valid value => valid (f value)
  | valid _, invalid reports => invalid reports
  | invalid reports, valid _ => invalid reports
  | invalid first, invalid second => invalid (first ++ second)

instance : Functor Checked where
  map := map

instance : Seq Checked where
  seq f value := apply f (value ())

def reports : Checked α → List Report
  | valid _ => []
  | invalid reports => reports

def toExcept : Checked α → Except (List Report) α
  | valid value => .ok value
  | invalid reports => .error reports

/-- A value that was read on its own, reported at its location. -/
def located (location : List Step) : Except Defect α → Checked α
  | .ok value => valid value
  | .error defect => invalid [⟨location, defect⟩]

/-- A field that has to be there and to be read. -/
def field (read : Json → Except Defect α) (members : Json.Members) (name : String) : Checked α :=
  located [.member name] (match members.lookup name with
    | some value => read value
    | none => .error .missing)

end Checked

end ImageVault.Schema
