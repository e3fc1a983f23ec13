import ImageVault.Number.Binary64
import ImageVault.Schema.Defect
import ImageVault.Schema.IntegerText
import ImageVault.Uuid.Strict

/-!
# Reading typed values

Whole numbers may also come as truth values, as floating-point numbers without a fraction,
and as text. Texts and identifiers are taken only from texts.
-/
namespace ImageVault.Schema

/-- A floating-point number stands for a whole one only strictly within 64 bits. -/
def integerOfFloat (value : Float) : Except Defect Int :=
  match Binary64.ofFloat? value with
  | none => .error .notFinite
  | some exact =>
    match exact.toInt? with
    | none => .error .notIntegral
    | some integer =>
      if -0x8000000000000000 < integer && integer < 0x8000000000000000 then .ok integer else .error .integerSize

def integer : Json → Except Defect Int
  | .int value => .ok value
  | .bool value => .ok (if value then 1 else 0)
  | .float value => integerOfFloat value
  | .string text =>
    (readInteger text.toList).mapError fun
      | .unreadable => .integerText
      | .tooLong => .integerSize
  | _ => .error .integerType

def positive (value : Json) : Except Defect Int := do
  let number ← integer value
  if 0 < number then return number else throw .notAbove

def nonNegative (value : Json) : Except Defect Int := do
  let number ← integer value
  if 0 ≤ number then return number else throw .below

def text : Json → Except Defect String
  | .string text => .ok text
  | _ => .error .textType

def uuid : Json → Except Defect Uuid
  | .string text =>
    match Uuid.ofStrict? text.toList with
    | some id => .ok id
    | none => .error .uuidText
  | _ => .error .uuidType

end ImageVault.Schema
