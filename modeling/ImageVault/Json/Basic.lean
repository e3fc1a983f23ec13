/-!
# JSON values

Whole numbers and floating-point numbers are different values, whole numbers are
unbounded, and an object keeps its members in the order in which they were written.
-/
namespace ImageVault

inductive Json where
  | null
  | bool (value : Bool)
  | int (value : Int)
  | float (value : Float)
  | string (value : String)
  | array (items : List Json)
  | object (members : List (String × Json))
  deriving Inhabited

namespace Json

abbrev Members := List (String × Json)

/-- The value of the first member with this name. -/
def Members.get? (members : Members) (name : String) : Option Json :=
  members.lookup name

/-- A member that is written as null counts as given. -/
def member? : Json → String → Option Json
  | .object members, name => members.lookup name
  | _, _ => none

/-- A member that is absent or null. -/
def present? (value : Json) (name : String) : Option Json :=
  match value.member? name with
  | some .null => none
  | found => found

def text? : Json → Option String
  | .string value => some value
  | _ => none

def int? : Json → Option Int
  | .int value => some value
  | _ => none

def items : Json → List Json
  | .array items => items
  | _ => []

def isNull : Json → Bool
  | .null => true
  | _ => false

/-- Null, false, zero and everything empty do not count as given. -/
def isTruthy : Json → Bool
  | .null => false
  | .bool value => value
  | .int value => value != 0
  | .float value => value != 0.0
  | .string value => !value.isEmpty
  | .array items => !items.isEmpty
  | .object members => !members.isEmpty

end Json

end ImageVault
