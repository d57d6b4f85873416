/-
**Why a text is no document.**

A text can fail to be a document in four ways: its form is broken at some place; it holds a word
that other readers take for a number and that a policy must not hold; a whole number has more
digits than are accepted; or arrays and objects are nested too deep.

Main definitions:

* `BucketAccess.Json.Mistake` — a break of the form;
* `BucketAccess.Json.Container` — the two kinds of values that hold values;
* `BucketAccess.Json.Fault` — the ways in which reading fails;
* `BucketAccess.Json.Place` — a place in a text;
* `BucketAccess.Json.Fault.message` — the wording of a failure.
-/

import BucketAccess.Text.Lines

set_option relaxedAutoImplicit false
set_option autoImplicit false

namespace BucketAccess.Json

/-- A break of the form of a document. -/
inductive Mistake where
  /-- A byte-order mark stands before the document. -/
  | byteOrderMark
  /-- Something else stands where a value is due. -/
  | noValue
  /-- Something else stands where the name of a member is due. -/
  | noName
  /-- No colon follows the name of a member. -/
  | noColon
  /-- Neither a comma nor the closing bracket follows an element. -/
  | noComma
  /-- Text follows the document. -/
  | extraText
  /-- The text ends inside a string. -/
  | openString
  /-- A control character stands in a string as it is. -/
  | controlCharacter
  /-- A backslash is followed by a character that it cannot escape. -/
  | unknownEscape
  /-- Fewer than four hexadecimal digits follow a numeric escape, or nothing follows them. -/
  | brokenNumericEscape
  deriving DecidableEq

/-- The wording of a mistake. -/
def Mistake.text : Mistake → String
  | .byteOrderMark => "Unexpected UTF-8 BOM (decode using utf-8-sig)"
  | .noValue => "Expecting value"
  | .noName => "Expecting property name enclosed in double quotes"
  | .noColon => "Expecting ':' delimiter"
  | .noComma => "Expecting ',' delimiter"
  | .extraText => "Extra data"
  | .openString => "Unterminated string starting at"
  | .controlCharacter => "Invalid control character at"
  | .unknownEscape => "Invalid \\escape"
  | .brokenNumericEscape => "Invalid \\uXXXX escape"

/-- The kinds of values that hold values. -/
inductive Container where
  | array
  | object
  deriving DecidableEq

/-- The name of a kind. -/
def Container.name : Container → String
  | .array => "array"
  | .object => "object"

/-- The ways in which reading fails; a mistake in the form comes with its position. -/
inductive Fault (Position : Type) where
  /-- The form is broken. -/
  | malformed (mistake : Mistake) (position : Position)
  /-- A word stands for a number that no document may hold. -/
  | excluded (word : String)
  /-- A whole number has too many digits. -/
  | tooManyDigits (count : Nat)
  /-- Arrays or objects are nested too deep. -/
  | tooDeep (container : Container)
  deriving DecidableEq

/-- The same failure with its position told differently. -/
def Fault.map {α β : Type} (f : α → β) : Fault α → Fault β
  | .malformed mistake position => .malformed mistake (f position)
  | .excluded word => .excluded word
  | .tooManyDigits count => .tooManyDigits count
  | .tooDeep container => .tooDeep container

/-- A place in a text. -/
structure Place where
  /-- The line, counted from one. -/
  line : Nat
  /-- The column, counted from one. -/
  column : Nat
  /-- How many characters stand before the place. -/
  offset : Nat
  deriving DecidableEq

/-- The place in a text behind which so many characters are left. -/
def Place.ofLeft (text : List Char) (left : Nat) : Place :=
  let before := text.take (text.length - left)
  ⟨Text.lineOf before, Text.columnOf before, before.length⟩

/-- The greatest number of digits of a whole number. -/
def maxDigits : Nat := 4300

/-- The wording of a failure. -/
def Fault.message : Fault Place → String
  | .malformed mistake place =>
      s!"{mistake.text}: line {place.line} column {place.column} (char {place.offset})"
  | .excluded word => s!"{word} is not a valid JSON value"
  | .tooManyDigits count =>
      s!"Exceeds the limit ({maxDigits} digits) for integer string conversion: value has " ++
        s!"{count} digits; use sys.set_int_max_str_digits() to increase the limit"
  | .tooDeep container =>
      s!"maximum recursion depth exceeded while decoding a JSON {container.name} from a " ++
        "unicode string"

end BucketAccess.Json
