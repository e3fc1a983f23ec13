import ImageVault.Json.Printer

/-!
# Defects of fields

A field that is not acceptable is reported by its place in the document and the rule that
it breaks. Reports are listed in the order of their written form.
-/
namespace ImageVault.Schema

inductive Defect where
  | missing
  | integerType
  | integerText
  | integerSize
  | notIntegral
  | notFinite
  | notAbove
  | below
  | textType
  | listType
  | uuidType
  | uuidText
  | notUpload
  deriving DecidableEq, Repr

def Defect.name : Defect → String
  | missing => "missing"
  | integerType => "int_type"
  | integerText => "int_parsing"
  | integerSize => "int_parsing_size"
  | notIntegral => "int_from_float"
  | notFinite => "finite_number"
  | notAbove => "greater_than"
  | below => "greater_than_equal"
  | textType => "string_type"
  | listType => "list_type"
  | uuidType => "uuid_type"
  | uuidText => "uuid_parsing"
  | notUpload => "value_error"

/-- One step on the way to a value: the name of a member or the place in a list. -/
inductive Step where
  | member (name : String)
  | item (place : Nat)
  deriving DecidableEq, Repr

def Step.toJson : Step → Json
  | member name => .string name
  | item place => .int place

structure Report where
  location : List Step
  defect : Defect
  deriving DecidableEq, Repr

namespace Report

def toJson (report : Report) : Json :=
  .object [("loc", .array (report.location.map Step.toJson)), ("type", .string report.defect.name)]

def precedes (a b : Report) : Bool :=
  a.toJson.text .spaced ≤ b.toJson.text .spaced

/-- The reports in the order of their written form. -/
def list (reports : List Report) : Json :=
  .array ((reports.mergeSort precedes).map toJson)

end Report

end ImageVault.Schema
