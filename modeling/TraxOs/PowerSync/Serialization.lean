import TraxOs.PowerSync.Envelopes

/-!
# Serialised sizes

The client accounts for bytes: the length in UTF-8 of the JSON text of an object. The
text has no white space. `JSON.stringify` escapes the quotation mark, the backslash and
the control characters, and writes a surrogate without its other half as an escape, so
that every text that it makes is well formed.
-/

namespace TraxOs.PowerSync

open TraxOs.ApiClient (leading trailing)

/-- The bytes of one code unit inside a quoted text, when it is not half of a pair. -/
def unitBytes (unit : UInt16) : Nat :=
  if unit = 0x22 ∨ unit = 0x5C then 2
  else if unit = 0x08 ∨ unit = 0x09 ∨ unit = 0x0A ∨ unit = 0x0C ∨ unit = 0x0D then 2
  else if unit < 0x20 then 6
  else if unit < 0x80 then 1
  else if unit < 0x800 then 2
  else if leading unit || trailing unit then 6
  else 3

/-- The bytes between the quotation marks. A surrogate pair is one character of four
bytes. -/
def contentBytes : Text → Nat
  | [] => 0
  | [unit] => unitBytes unit
  | first :: second :: rest =>
    if leading first && trailing second then contentBytes rest + 4
    else contentBytes (second :: rest) + unitBytes first

/-- `Buffer.byteLength(JSON.stringify(text), "utf8")`. -/
def textBytes (text : Text) : Nat := contentBytes text + 2

/-- The values of the members of the accounted objects. -/
inductive Scalar where
  | text (value : Text)
  | number (value : Nat)
  | boolean (value : Bool)
  | null

/-- The value of a text that may be missing. -/
def Scalar.ofText : Option Text → Scalar
  | some value => .text value
  | none => .null

/-- The value of a number that may be missing. -/
def Scalar.ofNumber : Option Nat → Scalar
  | some value => .number value
  | none => .null

/-- The bytes of a value. -/
def Scalar.bytes : Scalar → Nat
  | .text value => textBytes value
  | .number value => (numeral value).length
  | .boolean true => 4
  | .boolean false => 5
  | .null => 4

/-- `Buffer.byteLength(JSON.stringify(object), "utf8")`. -/
def objectBytes (members : List (String × Scalar)) : Nat :=
  2 + (members.length - 1) +
    (members.map fun entry => textBytes (ascii entry.1) + 1 + entry.2.bytes).sum

example : objectBytes [("id", .text (ascii "a\"b")), ("n", .number 40), ("p", .null)] = 29 := by
  decide

end TraxOs.PowerSync
