import Mathlib.Data.Rat.Defs
import Mathlib.Algebra.Order.Ring.Unbundled.Rat

/-!
# JSON values in the client

A string is a sequence of UTF-16 code units; its length in code points pairs the
surrogates, as the string iterator does. A number is what `JSON.parse` can make of
a JSON number: a rational, a zero with a sign, or an infinity when the text was too
large. Objects list their own members in enumeration order. `JSON.parse` keeps one
member of each name.

Two comparisons matter. `Object.is` distinguishes the zeros and never identifies two
arrays or objects that were made separately. Equality of JSON values compares what
they denote.
-/

namespace TraxOs.ApiClient

/-- A string, as the sequence of its UTF-16 code units. -/
abbrev Text := List UInt16

/-- The code units of one character. -/
def utf16Units (character : Char) : Text :=
  if character.toNat < 0x10000 then [UInt16.ofNat character.toNat]
  else
    [UInt16.ofNat (0xD800 + (character.toNat - 0x10000) / 0x400),
      UInt16.ofNat (0xDC00 + (character.toNat - 0x10000) % 0x400)]

/-- The UTF-16 form of a sequence of characters. -/
def utf16 (characters : List Char) : Text := characters.flatMap utf16Units

/-- A string of the source. -/
def literal (text : String) : Text := utf16 text.toList

/-- The first half of a surrogate pair. -/
def leading (unit : UInt16) : Bool := 0xD800 ≤ unit && unit ≤ 0xDBFF

/-- The second half of a surrogate pair. -/
def trailing (unit : UInt16) : Bool := 0xDC00 ≤ unit && unit ≤ 0xDFFF

/-- `[...value].length`: a surrogate pair is one code point, and so is every other
unit. -/
def codePoints : Text → Nat
  | [] => 0
  | [_] => 1
  | first :: second :: rest =>
    if leading first && trailing second then codePoints rest + 1
    else codePoints (second :: rest) + 1

/-- A number as `JSON.parse` reads it. -/
inductive Number where
  | finite (value : ℚ)
  | negativeZero
  | infinite (negative : Bool)
deriving DecidableEq

/-- The number that it denotes. An infinity denotes none. -/
def Number.rational : Number → Option ℚ
  | .finite value => some value
  | .negativeZero => some 0
  | .infinite _ => none

/-- `Number.MAX_SAFE_INTEGER`. -/
def maxSafeInteger : Nat := 9007199254740991

/-- `Number.isSafeInteger`. -/
def Number.isSafeInteger (number : Number) : Bool :=
  number.rational.any fun value => value.den == 1 && value.num.natAbs ≤ maxSafeInteger

/-- `Number.isFinite`. -/
def Number.isFinite (number : Number) : Bool := number.rational.isSome

/-- A JSON value. -/
inductive Value where
  | null
  | boolean (value : Bool)
  | number (value : Number)
  | text (value : Text)
  | array (items : List Value)
  | object (members : List (Text × Value))

/-- The own names of an object. -/
def names (members : List (Text × Value)) : List Text := members.map Prod.fst

/-- The names that every object inherits from `Object.prototype`. -/
def inheritedNames : List Text :=
  ["constructor", "__defineGetter__", "__defineSetter__", "hasOwnProperty", "__lookupGetter__",
    "__lookupSetter__", "isPrototypeOf", "propertyIsEnumerable", "toString", "valueOf",
    "__proto__", "toLocaleString"].map literal

/-- `Object.is` between a value that was parsed and a value of a schema. -/
def sameValue : Value → Value → Bool
  | .null, .null => true
  | .boolean left, .boolean right => left == right
  | .number left, .number right => left == right
  | .text left, .text right => left == right
  | _, _ => false

mutual

/-- Equality of JSON values: numbers by what they denote, arrays item by item,
objects member by member in any order. -/
def Value.equal : Value → Value → Bool
  | .null, .null => true
  | .boolean left, .boolean right => left == right
  | .number left, .number right =>
    left == right || (left.rational.isSome && left.rational == right.rational)
  | .text left, .text right => left == right
  | .array left, .array right => equalItems left right
  | .object left, .object right =>
    left.length == right.length && equalMembers left right
  | _, _ => false

/-- Equality of arrays. -/
def equalItems : List Value → List Value → Bool
  | [], [] => true
  | left :: lefts, right :: rights => left.equal right && equalItems lefts rights
  | _, _ => false

/-- Every member on the left has an equal one of its name on the right. -/
def equalMembers : List (Text × Value) → List (Text × Value) → Bool
  | [], _ => true
  | (name, left) :: lefts, rights =>
    (match rights.lookup name with
      | some right => left.equal right
      | none => false) && equalMembers lefts rights

end

theorem sameValue_comm (left right : Value) : sameValue left right = sameValue right left := by
  cases left <;> cases right <;> simp only [sameValue, Bool.beq_comm]

/-- Values that `Object.is` identifies are equal. -/
theorem equal_of_same (left right : Value) (same : sameValue left right = true) :
    left.equal right = true := by
  cases left <;> cases right <;> simp_all [sameValue, Value.equal]

/-- Characters are no surrogates, so each is one code point. -/
theorem codePoints_units (character : Char) (rest : Text) :
    codePoints (utf16Units character ++ rest) = codePoints rest + 1 := by
  have scalar := character.valid
  have bounded : character.toNat < 0xD800 ∨ 0xDFFF < character.toNat ∧ character.toNat < 0x110000 :=
    scalar
  unfold utf16Units
  split
  · next basic =>
    have single : leading (UInt16.ofNat character.toNat) = false := by
      rw [leading, Bool.and_eq_false_iff]
      simp only [decide_eq_false_iff_not, UInt16.le_iff_toNat_le, UInt16.toNat_ofNat']
      rw [Nat.mod_eq_of_lt (by omega)]
      change ¬ 0xD800 ≤ character.toNat ∨ ¬ character.toNat ≤ 0xDBFF
      omega
    cases rest with
    | nil => rfl
    | cons second rest =>
      rw [List.singleton_append, codePoints, single, Bool.false_and, if_neg Bool.false_ne_true]
  · next beyond =>
    have first : leading (UInt16.ofNat (0xD800 + (character.toNat - 0x10000) / 0x400)) = true := by
      rw [leading, Bool.and_eq_true, decide_eq_true_eq, decide_eq_true_eq,
        UInt16.le_iff_toNat_le, UInt16.le_iff_toNat_le, UInt16.toNat_ofNat',
        Nat.mod_eq_of_lt (by omega)]
      change 0xD800 ≤ _ ∧ _ ≤ 0xDBFF
      omega
    have second : trailing (UInt16.ofNat (0xDC00 + (character.toNat - 0x10000) % 0x400)) = true := by
      rw [trailing, Bool.and_eq_true, decide_eq_true_eq, decide_eq_true_eq,
        UInt16.le_iff_toNat_le, UInt16.le_iff_toNat_le, UInt16.toNat_ofNat',
        Nat.mod_eq_of_lt (by omega)]
      change 0xDC00 ≤ _ ∧ _ ≤ 0xDFFF
      omega
    simp only [List.cons_append, List.nil_append]
    rw [codePoints, first, second, Bool.true_and, if_pos rfl]

/-- The client counts the characters that the server wrote. -/
theorem codePoints_utf16 (characters : List Char) :
    codePoints (utf16 characters) = characters.length := by
  induction characters with
  | nil => rfl
  | cons character rest inductionHypothesis =>
    have counted := codePoints_units character (utf16 rest)
    rw [inductionHypothesis] at counted
    exact counted

end TraxOs.ApiClient
