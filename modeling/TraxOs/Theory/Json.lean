import Mathlib.Data.Nat.Digits.Defs

/-!
# Compact JSON text

A JSON value and its compact rendering: no white space, members in the order of
the value, non-ASCII characters written as themselves, and control characters
escaped the way Python's `json.dumps` with `ensure_ascii=False` and ECMAScript's
`JSON.stringify` both escape them. A writer that sorts its members does so when
it builds the value.

Texts are sequences of code points, so the size of a rendering in UTF-8 bytes is
a sum over its characters.
-/

namespace TraxOs.Theory

/-- A JSON value with integer numbers. -/
inductive Json where
  | null
  | bool (value : Bool)
  | number (value : Int)
  | text (value : List Char)
  | array (items : List Json)
  | object (members : List (List Char × Json))

namespace Json

/-- The decimal text of an integer. -/
def decimal (value : Int) : List Char :=
  match value with
  | .ofNat magnitude => Nat.toDigits 10 magnitude
  | .negSucc magnitude => '-' :: Nat.toDigits 10 (magnitude + 1)

/-- How one character appears inside a quoted text. -/
def escape (character : Char) : List Char :=
  if character = '"' then ['\\', '"']
  else if character = '\\' then ['\\', '\\']
  else if character = '\n' then ['\\', 'n']
  else if character = '\r' then ['\\', 'r']
  else if character = '\t' then ['\\', 't']
  else if character.toNat = 8 then ['\\', 'b']
  else if character.toNat = 12 then ['\\', 'f']
  else if character.toNat < 32 then
    ['\\', 'u', '0', '0', Nat.digitChar (character.toNat / 16),
      Nat.digitChar (character.toNat % 16)]
  else [character]

/-- A text in quotation marks. -/
def quote (text : List Char) : List Char := '"' :: (text.flatMap escape ++ ['"'])

mutual

/-- The compact text of a value. -/
def render : Json → List Char
  | .null => ['n', 'u', 'l', 'l']
  | .bool true => ['t', 'r', 'u', 'e']
  | .bool false => ['f', 'a', 'l', 's', 'e']
  | .number value => decimal value
  | .text value => quote value
  | .array items => '[' :: (renderItems items ++ [']'])
  | .object members => '{' :: (renderMembers members ++ ['}'])

/-- Array items, separated by commas. -/
def renderItems : List Json → List Char
  | [] => []
  | [last] => last.render
  | item :: rest => item.render ++ ',' :: renderItems rest

/-- Object members, separated by commas. -/
def renderMembers : List (List Char × Json) → List Char
  | [] => []
  | [(name, value)] => quote name ++ ':' :: value.render
  | (name, value) :: rest => quote name ++ ':' :: (value.render ++ ',' :: renderMembers rest)

end

example : (Json.array [.number (-12), .null, .text "a\n".toList]).render =
    "[-12,null,\"a\\n\"]".toList := by decide

end Json

end TraxOs.Theory
