import ImageVault.Json.Basic
import ImageVault.Number.Shortest
import ImageVault.Text.Hex

/-!
# Writing JSON text

Members and items are written in their order. A string escapes the quote, the backslash
and the control characters, and nothing else.
-/
namespace ImageVault.Json

/-- What stands between two items, and between a name and its value. -/
structure Layout where
  comma : List Char
  colon : List Char

def Layout.compact : Layout := ⟨[','], [':']⟩

def Layout.spaced : Layout := ⟨[',', ' '], [':', ' ']⟩

def escapeChar (c : Char) : List Char :=
  if c = '"' || c = '\\' then ['\\', c]
  else if c = '\n' then ['\\', 'n']
  else if c = '\r' then ['\\', 'r']
  else if c = '\t' then ['\\', 't']
  else if c.toNat < 0x20 then '\\' :: 'u' :: Text.hexPadded 4 c.toNat
  else [c]

def renderString (value : String) : List Char :=
  '"' :: value.toList.flatMap escapeChar ++ ['"']

def renderFloat (value : Float) : List Char :=
  if value.isNaN then "NaN".toList
  else if value.isInf then (if value < 0 then "-Infinity" else "Infinity").toList
  else Number.floatText value

mutual

def render (layout : Layout) : Json → List Char
  | .null => "null".toList
  | .bool true => "true".toList
  | .bool false => "false".toList
  | .int value => Number.intText value
  | .float value => renderFloat value
  | .string value => renderString value
  | .array items => '[' :: renderItems layout items ++ [']']
  | .object members => '{' :: renderMembers layout members ++ ['}']

def renderItems (layout : Layout) : List Json → List Char
  | [] => []
  | [item] => render layout item
  | item :: rest => render layout item ++ layout.comma ++ renderItems layout rest

def renderMembers (layout : Layout) : List (String × Json) → List Char
  | [] => []
  | [(name, value)] => renderString name ++ layout.colon ++ render layout value
  | (name, value) :: rest =>
    renderString name ++ layout.colon ++ render layout value ++ layout.comma
      ++ renderMembers layout rest

end

def text (value : Json) (layout : Layout) : String :=
  String.ofList (render layout value)

end ImageVault.Json
