/-
**What can be relied on in the name of a bucket.**

A name that is accepted breaks none of the rules.  Whoever puts a name into a resource or a path
needs the rules one by one and in positive form: which characters there are, how many, and which of
them stand at the ends.

Main results:

* `BucketAccess.Bucket.isNameChar_of_mem`, `BucketAccess.Bucket.length_le_of_isValid`,
  `BucketAccess.Bucket.le_length_of_isValid` — the characters of a name, and how many there are;
* `BucketAccess.Bucket.slash_not_mem_of_isValid` — **a name is a single part of a path**.
-/

import BucketAccess.Bucket.Name
import BucketAccess.Text.Blank

set_option relaxedAutoImplicit false
set_option autoImplicit false

namespace BucketAccess.Bucket

open BucketAccess.Text

/-- No character of a name is blank. -/
theorem isBlank_of_isNameChar {c : Char} (h : isNameChar c = true) : isBlank c = false := by
  simp only [isNameChar, isEdge, isLower, isDigit, Bool.or_eq_true, Bool.and_eq_true,
    decide_eq_true_eq, beq_iff_eq, Char.le_def, UInt32.le_iff_toNat_le] at h
  have hnat : (0x61 ≤ c.toNat ∧ c.toNat ≤ 0x7A ∨ 0x30 ≤ c.toNat ∧ c.toNat ≤ 0x39) ∨
      c.toNat = 0x2E ∨ c.toNat = 0x2D := by
    rcases h with (h | rfl) | rfl
    · exact .inl h
    · exact .inr (.inl rfl)
    · exact .inr (.inr rfl)
  simp only [isBlank, inRanges, blankRanges, List.any_cons, List.any_nil, Bool.or_false,
    Bool.or_eq_false_iff, Bool.and_eq_false_iff, decide_eq_false_iff_not]
  omega

section Valid

variable {name : String} (h : (review name).isValid = true)

include h

theorem length_le_of_isValid : name.length ≤ 63 := by
  have hrule := isValid_review_iff.1 h .shortEnough
  simpa [NameRule.isBrokenBy, maxLength, String.length_toList] using hrule

theorem le_length_of_isValid : 3 ≤ name.length := by
  have hrule := isValid_review_iff.1 h .longEnough
  simpa [NameRule.isBrokenBy, minLength, String.length_toList] using hrule

theorem ne_empty_of_isValid : name ≠ "" := by
  rintro rfl
  have hlength := le_length_of_isValid h
  simp at hlength

theorem isNameChar_of_mem {c : Char} (hc : c ∈ name.toList) : isNameChar c = true := by
  have hrule := isValid_review_iff.1 h .characters
  simp only [NameRule.isBrokenBy, Bool.not_eq_false', allNonempty, Bool.and_eq_true,
    List.all_eq_true] at hrule
  exact hrule.2 c hc

theorem head_isEdge_of_isValid : name.toList.head?.any isEdge = true := by
  simpa [NameRule.isBrokenBy] using isValid_review_iff.1 h .firstCharacter

theorem last_isEdge_of_isValid : name.toList.getLast?.any isEdge = true := by
  simpa [NameRule.isBrokenBy] using isValid_review_iff.1 h .lastCharacter

/-- **A name is a single part of a path.** -/
theorem slash_not_mem_of_isValid : '/' ∉ name.toList := by
  intro hslash
  have hchar := isNameChar_of_mem h hslash
  revert hchar
  decide

end Valid

end BucketAccess.Bucket
