/-
**Showing a value in a message.**

A message that complains about a value shows it.  A string is shown as it is; inside containers,
strings are quoted, so that it stays visible where each of them ends.

Main definitions:

* `BucketAccess.Json.Value.display` — a value as it is shown.

Main results:

* `BucketAccess.Json.Value.display_str` — a string is shown as it is.
-/

import BucketAccess.Decimal.Layout
import BucketAccess.Json.Value
import BucketAccess.Text.Quoted

set_option relaxedAutoImplicit false
set_option autoImplicit false

namespace BucketAccess.Json

open BucketAccess.Text (Str quotedPoints)

mutual

/-- A value as it is shown inside a container. -/
def Value.shown : Value → List Char
  | .null => ['N', 'o', 'n', 'e']
  | .bool true => ['T', 'r', 'u', 'e']
  | .bool false => ['F', 'a', 'l', 's', 'e']
  | .int i => Decimal.intDigits i
  | .real x => (Decimal.plainLayout "inf").render x
  | .str s => quotedPoints s.toList
  | .arr [] => ['[', ']']
  | .arr (v :: rest) => '[' :: v.shown ++ shownItems rest ++ [']']
  | .obj [] => ['{', '}']
  | .obj ((key, v) :: rest) =>
      '{' :: quotedPoints key.toList ++ ':' :: ' ' :: v.shown ++ shownMembers rest ++ ['}']

/-- The elements of an array behind the first one. -/
def shownItems : List Value → List Char
  | [] => []
  | v :: rest => ',' :: ' ' :: v.shown ++ shownItems rest

/-- The members of an object behind the first one. -/
def shownMembers : List (Str × Value) → List Char
  | [] => []
  | (key, v) :: rest =>
      ',' :: ' ' :: quotedPoints key.toList ++ ':' :: ' ' :: v.shown ++ shownMembers rest

end

/-- A value as it is shown in a message. -/
def Value.display : Value → Str
  | .str s => s
  | v => String.ofList v.shown

/-- A string is shown as it is. -/
@[simp] theorem Value.display_str (s : Str) : (Value.str s).display = s := rfl

end BucketAccess.Json
