/-
**Upper-casing a text.**

The names of log levels are compared without regard to case, by turning what was typed into upper
case.  The whole of Unicode is covered, so that a text which is no level can be shown in the form
in which it was compared.

Main definitions:

* `BucketAccess.Text.upperChar` — the upper-case form of a character, one to three characters long;
* `BucketAccess.Text.upper` — the upper-case form of a text.

Main results:

* `BucketAccess.Text.upper_append` — a text is turned character by character.
-/

import BucketAccess.Text.Uppercase.Table

set_option relaxedAutoImplicit false
set_option autoImplicit false

namespace BucketAccess.Text

/-- Whether a code point is a letter of a run. -/
def CaseRun.covers (run : CaseRun) (n : Nat) : Bool :=
  run.first ≤ n && n ≤ run.last && (n - run.first) % run.step == 0

/-- The upper-case form of a character; a character without one is its own form. -/
def upperChar (c : Char) : List Char :=
  match upperExpansions.lookup c.toNat with
  | some form => form.map Char.ofNat
  | none =>
      match upperRuns.find? (·.covers c.toNat) with
      | some run => [Char.ofNat (c.toNat + run.shift).toNat]
      | none => [c]

/-- The upper-case form of a text. -/
def upper (s : List Char) : List Char :=
  s.flatMap upperChar

/-- A text is turned into upper case character by character. -/
theorem upper_append (s t : List Char) : upper (s ++ t) = upper s ++ upper t := by
  simp [upper]

end BucketAccess.Text
