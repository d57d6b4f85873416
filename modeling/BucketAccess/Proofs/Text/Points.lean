/-
**The points of a text.**

A text is a row of points without halves, and what is asked of its points can be asked of its
characters instead: whether a part occurs in it, how it begins, and what stands before and behind a
separator.  So a check of rows of points says about texts what it seems to say.

Main definitions:

* `BucketAccess.Text.Str.IsText` — a row that is a text.

Main results:

* `BucketAccess.Text.prefix_map_char_iff`, `BucketAccess.Text.infix_map_char_iff` — beginnings and
  parts of a text are those of its characters;
* `BucketAccess.Text.beforeFirst_map_char`, `BucketAccess.Text.behindFirst_map_char` — **the first
  field of a text** is that of its characters, and so is the rest;
* `BucketAccess.Text.Str.isText_append_iff` — rows put together are a text when each of them is.
-/

import BucketAccess.Proofs.Text.Fields
import BucketAccess.Text.Str
import Mathlib.Data.List.Infix
import Mathlib.Data.Set.List

set_option relaxedAutoImplicit false
set_option autoImplicit false

namespace BucketAccess.Text

theorem char_injective : Function.Injective Point.char :=
  fun _ _ h => Point.char.inj h

theorem prefix_map_char_iff {lead chars : List Char} :
    lead.map Point.char <+: chars.map Point.char ↔ lead <+: chars :=
  List.prefix_map_iff_of_injective char_injective

theorem infix_map_char_iff (part chars : List Char) :
    part.map Point.char <:+: chars.map Point.char ↔ part <:+: chars := by
  rw [List.infix_map_iff]
  constructor
  · rintro ⟨other, hother, heq⟩
    rwa [Str.map_char_inj.1 heq]
  · exact fun h => ⟨part, h, rfl⟩

theorem ne_comp_char (sep : Char) :
    ((· != (sep : Point)) ∘ Point.char : Char → Bool) = (· != sep) := by
  funext c
  rw [Bool.eq_iff_iff]
  simp

/-- **What stands before a separator in a text**, by its characters. -/
theorem beforeFirst_map_char (sep : Char) (chars : List Char) :
    beforeFirst (sep : Point) (chars.map .char) = (beforeFirst sep chars).map .char := by
  rw [beforeFirst, List.takeWhile_map, ne_comp_char, beforeFirst]

/-- What stands behind it. -/
theorem behindFirst_map_char (sep : Char) (chars : List Char) :
    behindFirst (sep : Point) (chars.map .char) = (behindFirst sep chars).map .char := by
  rw [behindFirst, List.dropWhile_map, ne_comp_char, behindFirst, List.map_drop]

namespace Str

/-! ### Rows that are texts -/

/-- A row that is a text. -/
def IsText (s : Str) : Prop :=
  ∃ text : String, s = text

@[simp] theorem isText_coe (text : String) : IsText text :=
  ⟨text, rfl⟩

/-- A row is a text when each of its points is a character. -/
theorem isText_iff {s : Str} : s.IsText ↔ ∀ p ∈ s.toList, ∃ c, p = .char c := by
  constructor
  · rintro ⟨text, rfl⟩ p hp
    obtain ⟨c, -, rfl⟩ := List.mem_map.1 hp
    exact ⟨c, rfl⟩
  · intro h
    have hmem : s.toList ∈ Set.range (List.map Point.char) := by
      rw [Set.range_list_map]
      exact fun p hp => (h p hp).imp fun c hc => hc.symm
    obtain ⟨chars, hchars⟩ := hmem
    exact ⟨String.ofList chars, toList_inj.1 (by simp [← hchars])⟩

/-- Rows put together are a text when each of them is one. -/
@[simp] theorem isText_append_iff {s t : Str} : (s ++ t).IsText ↔ s.IsText ∧ t.IsText := by
  simp only [isText_iff, toList_append, List.forall_mem_append]

end Str

end BucketAccess.Text
