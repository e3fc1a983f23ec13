import ImageVault.Json.Basic
import ImageVault.Number.Shortest
import ImageVault.Text.Quoted

/-!
# Values inside messages

A string stands in a message as it is; inside a list or an object it is quoted. Null and
the truth values are capitalised names.
-/
namespace ImageVault.Json

mutual

/-- The diagnostic form, in which strings are quoted. -/
def inspect : Json → List Char
  | .null => "None".toList
  | .bool true => "True".toList
  | .bool false => "False".toList
  | .int value => Number.intText value
  | .float value => Number.floatText value
  | .string value => Text.quoted value.toList
  | .array items => '[' :: inspectItems items ++ [']']
  | .object members => '{' :: inspectMembers members ++ ['}']

def inspectItems : List Json → List Char
  | [] => []
  | [item] => inspect item
  | item :: rest => inspect item ++ ',' :: ' ' :: inspectItems rest

def inspectMembers : List (String × Json) → List Char
  | [] => []
  | [(name, value)] => Text.quoted name.toList ++ ':' :: ' ' :: inspect value
  | (name, value) :: rest =>
    Text.quoted name.toList ++ ':' :: ' ' :: inspect value ++ ',' :: ' ' :: inspectMembers rest

end

def display : Json → String
  | .string value => value
  | value => String.ofList (inspect value)

end ImageVault.Json
