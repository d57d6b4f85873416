/-
**Quoted text.**

A text that is shown back to the person who typed it is put between quotes, so that blanks at its
ends and characters without a shape can be seen.  Single quotes are used unless the text holds a
single quote and no double one.  The backslash and the quote in use are escaped, and so is every
character that is not shown as it is: the line feed, carriage return and tab by a letter, the
others by their number.

Main definitions:

* `BucketAccess.Text.quoteMark` — the quote that is used around a text;
* `BucketAccess.Text.quotedChar`, `BucketAccess.Text.quotedPoint` — the written form of one
  character between quotes, and of half of one;
* `BucketAccess.Text.quoted` — the quoted text;
* `BucketAccess.Text.bracketed` — a list of texts, quoted, between brackets.

Main results:

* `BucketAccess.Text.quoted_of_plain` — a text of visible ASCII characters without quotes and
  backslashes is only put between single quotes.
-/

import BucketAccess.Text.Printable
import BucketAccess.Text.Str

set_option relaxedAutoImplicit false
set_option autoImplicit false

namespace BucketAccess.Text

/-- The quote that is used around a text. -/
def quoteMark (s : List Point) : Char :=
  if s.contains (.char '\'') && !s.contains (.char '"') then '"' else '\''

/-- A code point spelled out as a number, in the narrowest of the three widths that holds it. -/
def spelledOut (n : Nat) : List Char :=
  if n ≤ 0xFF then '\\' :: 'x' :: hex 2 n
  else if n ≤ 0xFFFF then '\\' :: 'u' :: hex 4 n
  else '\\' :: 'U' :: hex 8 n

/-- The written form of one character between quotes. -/
def quotedChar (mark c : Char) : List Char :=
  if c = mark ∨ c = '\\' then ['\\', c]
  else if c = '\n' then ['\\', 'n']
  else if c = '\r' then ['\\', 'r']
  else if c = '\t' then ['\\', 't']
  else if isPrintable c then [c]
  else spelledOut c.toNat

/-- The written form of one point between quotes; half of a character has no shape. -/
def quotedPoint (mark : Char) : Point → List Char
  | .char c => quotedChar mark c
  | .half h => spelledOut h.unit

/-- The quoted form of a row of points. -/
def quotedPoints (s : List Point) : List Char :=
  quoteMark s :: s.flatMap (quotedPoint (quoteMark s)) ++ [quoteMark s]

/-- The quoted form of a text. -/
def quoted (s : Str) : String :=
  String.ofList (quotedPoints s.toList)

/-- A list of texts, each quoted, with a comma and a space between them, in square brackets. -/
def bracketed (items : List Str) : String :=
  "[" ++ ", ".intercalate (items.map quoted) ++ "]"

/-- A text of visible ASCII characters without quotes and backslashes is only put between single
quotes. -/
theorem quoted_of_plain {s : List Char}
    (h : ∀ c ∈ s, 32 ≤ c.toNat ∧ c.toNat ≤ 126 ∧ c ≠ '\'' ∧ c ≠ '\\') :
    quotedPoints (s.map .char) = '\'' :: s ++ ['\''] := by
  have hmark : quoteMark (s.map .char) = '\'' := by
    have hq : '\'' ∉ s := fun hm => (h _ hm).2.2.1 rfl
    simp [quoteMark, hq]
  have hbody : (s.map Point.char).flatMap (quotedPoint '\'') = s := by
    clear hmark
    induction s with
    | nil => rfl
    | cons c r ih =>
        obtain ⟨hlo, hhi, hq, hb⟩ := h c (by simp)
        have hn : c ≠ '\n' ∧ c ≠ '\r' ∧ c ≠ '\t' := by
          refine ⟨?_, ?_, ?_⟩ <;> rintro rfl <;> revert hlo <;> decide
        have hr := ih fun d hd => h d (by simp [hd])
        simp [quotedPoint, quotedChar, hq, hb, hn, isPrintable_of_ascii hlo hhi, hr]
  simp only [quotedPoints, hmark, hbody]

end BucketAccess.Text
