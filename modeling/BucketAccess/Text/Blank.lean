/-
**Blank characters and trimming.**

Bucket names, paths and settings arrive from forms and files with blanks around them, and those
blanks never belong to the name.  A character is blank when Unicode counts it as white space, or
when it is one of the four information separators `U+001C` to `U+001F`; the zero-width space and
the byte-order mark are not blank.

Main definitions:

* `BucketAccess.Text.isBlank` — the class of blank characters;
* `BucketAccess.Text.trim` — a text without the blanks at its two ends;
* `BucketAccess.Text.strip` — the same on strings.

Main results:

* `BucketAccess.Text.isBlank_of_isWhitespace` — core's white space is blank;
* `BucketAccess.Text.trim_eq_self_iff` — exactly the texts whose two ends are not blank are left
  alone.
-/

set_option relaxedAutoImplicit false
set_option autoImplicit false

namespace BucketAccess.Text

/-! ### The class -/

/-- The blank characters, as ranges of code points with both ends included. -/
def blankRanges : List (Nat × Nat) :=
  [(0x09, 0x0D), (0x1C, 0x20), (0x85, 0x85), (0xA0, 0xA0), (0x1680, 0x1680), (0x2000, 0x200A),
    (0x2028, 0x2029), (0x202F, 0x202F), (0x205F, 0x205F), (0x3000, 0x3000)]

/-- Whether a code point lies in one of the ranges, both ends included. -/
def inRanges (ranges : List (Nat × Nat)) (n : Nat) : Bool :=
  ranges.any fun range => range.1 ≤ n && n ≤ range.2

/-- Whether a character is blank. -/
def isBlank (c : Char) : Bool :=
  inRanges blankRanges c.toNat

/-- Core's white space is blank. -/
theorem isBlank_of_isWhitespace {c : Char} (h : c.isWhitespace = true) : isBlank c = true := by
  simp only [Char.isWhitespace, Bool.or_eq_true, decide_eq_true_eq] at h
  rcases h with ((rfl | rfl) | rfl) | rfl <;> decide

/-! ### Trimming -/

/-- A text without its leading blanks. -/
def trimLeft (s : List Char) : List Char :=
  s.dropWhile isBlank

/-- A text without its trailing blanks. -/
def trimRight (s : List Char) : List Char :=
  (s.reverse.dropWhile isBlank).reverse

/-- A text without the blanks at its two ends. -/
def trim (s : List Char) : List Char :=
  trimRight (trimLeft s)

/-- A string without the blanks at its two ends. -/
def strip (s : String) : String :=
  String.ofList (trim s.toList)

@[simp] theorem trim_nil : trim [] = [] := rfl

/-- A text that starts with no blank keeps its start. -/
theorem trimLeft_of_head {s : List Char} (h : ∀ c ∈ s.head?, isBlank c = false) :
    trimLeft s = s := by
  cases s with
  | nil => rfl
  | cons c r => simp [trimLeft, h c rfl]

/-- A text that ends with no blank keeps its end. -/
theorem trimRight_of_last {s : List Char} (h : ∀ c ∈ s.getLast?, isBlank c = false) :
    trimRight s = s := by
  have hr : s.reverse.dropWhile isBlank = s.reverse :=
    trimLeft_of_head (s := s.reverse) (by simpa using h)
  simp [trimRight, hr]

/-- A text whose two ends are not blank is left alone. -/
theorem trim_of_edges {s : List Char} (hh : ∀ c ∈ s.head?, isBlank c = false)
    (hl : ∀ c ∈ s.getLast?, isBlank c = false) : trim s = s := by
  rw [trim, trimLeft_of_head hh, trimRight_of_last hl]

/-! ### What trimming leaves -/

/-- What is left of a text starts with no blank. -/
theorem head_trimLeft (s : List Char) : ∀ c ∈ (trimLeft s).head?, isBlank c = false := by
  intro c hc
  have hfirst := List.head?_dropWhile_not isBlank s
  rw [trimLeft, Option.mem_def] at hc
  simpa [hc] using hfirst

/-- What is left of a text ends with no blank. -/
theorem last_trimRight (s : List Char) : ∀ c ∈ (trimRight s).getLast?, isBlank c = false := by
  simpa [trimRight, trimLeft] using head_trimLeft s.reverse

/-- Trailing blanks go, and what stands before them stays. -/
theorem isPrefix_trimRight (s : List Char) : trimRight s <+: s := by
  have hsuffix : s.reverse.dropWhile isBlank <:+ s.reverse := List.dropWhile_suffix isBlank
  simpa [trimRight] using List.reverse_prefix.2 hsuffix

theorem head_trim (s : List Char) : ∀ c ∈ (trim s).head?, isBlank c = false := by
  intro c hc
  obtain ⟨blanks, hblanks⟩ := isPrefix_trimRight (trimLeft s)
  refine head_trimLeft s c ?_
  rw [← hblanks, ← trim, List.head?_append, Option.mem_def.1 hc]
  rfl

theorem last_trim (s : List Char) : ∀ c ∈ (trim s).getLast?, isBlank c = false :=
  last_trimRight (trimLeft s)

/-- Trimming brings no character into a text. -/
theorem mem_of_mem_trim {c : Char} {s : List Char} (h : c ∈ trim s) : c ∈ s :=
  List.dropWhile_subset isBlank ((isPrefix_trimRight (trimLeft s)).subset h)

/-- Trimming leaves a text alone exactly when there is no blank at its two ends. -/
theorem trim_eq_self_iff {s : List Char} : trim s = s ↔
    (∀ c ∈ s.head?, isBlank c = false) ∧ ∀ c ∈ s.getLast?, isBlank c = false := by
  constructor
  · intro h
    rw [← h]
    exact ⟨head_trim s, last_trim s⟩
  · rintro ⟨hhead, hlast⟩
    exact trim_of_edges hhead hlast

/-- The same on strings. -/
theorem strip_eq_self_iff {s : String} : strip s = s ↔
    (∀ c ∈ s.toList.head?, isBlank c = false) ∧ ∀ c ∈ s.toList.getLast?, isBlank c = false := by
  rw [← trim_eq_self_iff, strip, ← String.toList_inj, String.toList_ofList]

end BucketAccess.Text
