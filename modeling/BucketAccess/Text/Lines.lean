/-
**Lines, and places in a text.**

A text file may end its lines in three ways; they are made one before the text is looked at.  A
place in a text is told to people as a line, a column and the number of characters before it, and
there only the line feed ends a line.

Main definitions:

* `BucketAccess.Text.unifyNewlines` — every line ending as a line feed;
* `BucketAccess.Text.lineOf`, `BucketAccess.Text.columnOf` — the place reached after a given start
  of a text, both counted from one.

Main results:

* `BucketAccess.Text.not_mem_unifyNewlines` — no carriage return is left;
* `BucketAccess.Text.unifyNewlines_of_not_mem` — a text without carriage returns is left alone.
-/

set_option relaxedAutoImplicit false
set_option autoImplicit false

namespace BucketAccess.Text

/-- Every line ending as a line feed: a carriage return stands for one, and swallows a line feed
right after it. -/
def unifyNewlines : List Char → List Char
  | '\r' :: '\n' :: r => '\n' :: unifyNewlines r
  | c :: r => (if c = '\r' then '\n' else c) :: unifyNewlines r
  | [] => []

/-- No carriage return is left. -/
theorem not_mem_unifyNewlines (s : List Char) : '\r' ∉ unifyNewlines s := by
  fun_induction unifyNewlines s with
  | case1 r ih => simp [ih]
  | case2 c r _ ih =>
      by_cases h : c = '\r'
      · simp [h, ih]
      · simp [h, ih, Ne.symm h]
  | case3 => simp

/-- A text without carriage returns is left alone. -/
theorem unifyNewlines_of_not_mem {s : List Char} (h : '\r' ∉ s) : unifyNewlines s = s := by
  fun_induction unifyNewlines s with
  | case1 r _ => simp at h
  | case2 c r _ ih =>
      simp only [List.mem_cons, not_or] at h
      simp [Ne.symm h.1, ih h.2]
  | case3 => rfl

/-- The line reached after a start of a text. -/
def lineOf (before : List Char) : Nat :=
  before.count '\n' + 1

/-- The column reached after a start of a text. -/
def columnOf (before : List Char) : Nat :=
  (before.reverse.takeWhile (· ≠ '\n')).length + 1

end BucketAccess.Text
