/-
**The first field of a text.**

A text with a separator is its first field, the separator and the rest, and the first field is what
comes before the separator for the first time.  So a field can be named without cutting the whole
text.

Main definitions:

* `BucketAccess.Text.beforeFirst`, `BucketAccess.Text.behindFirst` — what stands before a separator
  for the first time, and what stands behind it.

Main results:

* `BucketAccess.Text.splitOn_of_mem` — **the fields of a text with a separator**;
* `BucketAccess.Text.splitOn_append_of_eq_concat`, `BucketAccess.Text.exists_splitOn_append` — what
  follows a text goes on its last field and leaves the fields before it alone.
-/

import BucketAccess.Text.Split
import Mathlib.Data.List.TakeWhile

set_option relaxedAutoImplicit false
set_option autoImplicit false

namespace BucketAccess.Text

/-- A character outside a class is not among characters of the class. -/
theorem not_mem_of_forall {α : Type} {p : α → Bool} {c : α} (hp : p c = false) {s : List α}
    (h : ∀ d ∈ s, p d = true) : c ∉ s := by
  intro hmem
  simp [h c hmem] at hp

/-- What stands in a field stands in the text that is put together. -/
theorem mem_joinWith {α : Type} {sep c : α} {fields : List (List α)} {field : List α}
    (h : field ∈ fields) (hc : c ∈ field) : c ∈ joinWith sep fields := by
  induction fields with
  | nil => simp at h
  | cons first rest ih =>
      cases rest with
      | nil => rwa [joinWith, ← List.mem_singleton.1 h]
      | cons second more =>
          have hjoin : joinWith sep (first :: second :: more) =
              first ++ sep :: joinWith sep (second :: more) := rfl
          rw [hjoin, List.mem_append, List.mem_cons]
          rcases List.mem_cons.1 h with rfl | hrest
          · exact .inl hc
          · exact .inr (.inr (ih hrest))

variable {α : Type} [DecidableEq α]

/-- What stands before the first occurrence of a separator. -/
def beforeFirst (sep : α) (s : List α) : List α :=
  s.takeWhile (· != sep)

/-- What stands behind the first occurrence of a separator. -/
def behindFirst (sep : α) (s : List α) : List α :=
  (s.dropWhile (· != sep)).drop 1

theorem forall_ne_of_not_mem {sep : α} {s : List α} (h : sep ∉ s) :
    ∀ c ∈ s, (c != sep) = true := by
  intro c hc
  simp only [bne_iff_ne, ne_eq]
  rintro rfl
  exact h hc

theorem beforeFirst_of_not_mem {sep : α} {s : List α} (h : sep ∉ s) :
    beforeFirst sep s = s :=
  List.takeWhile_eq_self_iff.2 (forall_ne_of_not_mem h)

@[simp] theorem beforeFirst_append_cons {sep : α} {field : List α} (h : sep ∉ field)
    (s : List α) : beforeFirst sep (field ++ sep :: s) = field := by
  simp [beforeFirst, List.takeWhile_append_of_pos (forall_ne_of_not_mem h)]

@[simp] theorem behindFirst_append_cons {sep : α} {field : List α} (h : sep ∉ field)
    (s : List α) : behindFirst sep (field ++ sep :: s) = s := by
  simp [behindFirst, List.dropWhile_append_of_pos (forall_ne_of_not_mem h)]

/-- A text with a separator is its first field, the separator and the rest. -/
theorem eq_append_cons_of_mem {sep : α} {s : List α} (h : sep ∈ s) :
    s = beforeFirst sep s ++ sep :: behindFirst sep s ∧ sep ∉ beforeFirst sep s := by
  obtain ⟨field, rest, rfl, hfield⟩ := List.eq_append_cons_of_mem h
  rw [beforeFirst_append_cons hfield, behindFirst_append_cons hfield]
  exact ⟨rfl, hfield⟩

/-- **The fields of a text with a separator**: the first one and those of the rest. -/
theorem splitOn_of_mem {sep : α} {s : List α} (h : sep ∈ s) :
    splitOn sep s = beforeFirst sep s :: splitOn sep (behindFirst sep s) := by
  obtain ⟨heq, hfield⟩ := eq_append_cons_of_mem h
  conv => lhs; rw [heq]
  exact splitOn_append hfield _

/-- The first field of a text, whether or not there is a separator. -/
theorem exists_splitOn_eq_cons (sep : α) (s : List α) :
    ∃ more, splitOn sep s = beforeFirst sep s :: more := by
  by_cases h : sep ∈ s
  · exact ⟨_, splitOn_of_mem h⟩
  · refine ⟨[], ?_⟩
    rw [splitOn_of_not_mem h, beforeFirst_of_not_mem h]

/-- A beginning with the separator in it has the first field of the whole text. -/
theorem beforeFirst_of_prefix {sep : α} {s t : List α} (h : s <+: t) (hsep : sep ∈ s) :
    beforeFirst sep s = beforeFirst sep t := by
  obtain ⟨rest, rfl⟩ := h
  obtain ⟨heq, hfield⟩ := eq_append_cons_of_mem hsep
  conv => rhs; rw [heq, List.append_assoc, List.cons_append]
  rw [beforeFirst_append_cons hfield]

/-- A beginning without the separator is a beginning of the first field. -/
theorem prefix_beforeFirst {sep : α} {s t : List α} (h : s <+: t) (hsep : sep ∉ s) :
    s <+: beforeFirst sep t := by
  obtain ⟨rest, rfl⟩ := h
  rw [beforeFirst, List.takeWhile_append_of_pos (forall_ne_of_not_mem hsep)]
  exact List.prefix_append _ _

/-- **What follows a text goes on its last field**, and the fields before it stay what they are. -/
theorem splitOn_append_of_eq_concat {sep : α} {before : List (List α)} {s last : List α}
    (h : splitOn sep s = before ++ [last]) (t : List α) :
    splitOn sep (s ++ t) = before ++ splitOn sep (last ++ t) := by
  induction before generalizing s with
  | nil =>
      have hjoin := joinWith_splitOn sep s
      rw [h] at hjoin
      obtain rfl : last = s := hjoin
      rfl
  | cons field rest ih =>
      have hmem : sep ∈ s := by
        by_contra hno
        simp [splitOn_of_not_mem hno] at h
      obtain ⟨heq, hfield⟩ := eq_append_cons_of_mem hmem
      rw [splitOn_of_mem hmem, List.cons_append, List.cons.injEq] at h
      have hrest := ih h.2
      conv => lhs; rw [heq, List.append_assoc, List.cons_append]
      rw [splitOn_append hfield, hrest, h.1, List.cons_append]

/-- The last field of a text is the start of the field that it becomes. -/
theorem exists_splitOn_append {sep : α} {before : List (List α)} {s last : List α}
    (h : splitOn sep s = before ++ [last]) (t : List α) :
    ∃ field after, splitOn sep (s ++ t) = before ++ field :: after ∧ last <+: field := by
  have hlast : sep ∉ last := not_mem_of_mem_splitOn (by rw [h]; simp)
  obtain ⟨after, hafter⟩ := exists_splitOn_eq_cons sep (last ++ t)
  refine ⟨_, after, by rw [splitOn_append_of_eq_concat h, hafter], ?_⟩
  exact prefix_beforeFirst (List.prefix_append last t) hlast

/-- Fields without the separator are found again in the text that is put together from them. -/
theorem splitOn_joinWith {sep : α} {fields : List (List α)} (hne : fields ≠ [])
    (h : ∀ field ∈ fields, sep ∉ field) : splitOn sep (joinWith sep fields) = fields := by
  induction fields with
  | nil => exact absurd rfl hne
  | cons field rest ih =>
      have hfield : sep ∉ field := h field (by simp)
      cases rest with
      | nil => exact splitOn_of_not_mem hfield
      | cons second more =>
          have hrest := ih (by simp) fun other hother => h other (List.mem_cons_of_mem _ hother)
          rw [joinWith, splitOn_append hfield, hrest]
          simp

/-- What stands in a field stands in the text. -/
theorem mem_of_mem_splitOn {sep c : α} {s field : List α} (h : field ∈ splitOn sep s)
    (hc : c ∈ field) : c ∈ s := by
  rw [← joinWith_splitOn sep s]
  exact mem_joinWith h hc

/-- A known end of a text stands in one of its fields. -/
theorem exists_mem_splitOn_append {sep : α} {ending : List α} (h : sep ∉ ending)
    (s : List α) : ∃ field ∈ splitOn sep (s ++ ending), ending <:+ field := by
  induction s with
  | nil => exact ⟨ending, by simp [splitOn_of_not_mem h], List.suffix_refl _⟩
  | cons c r ih =>
      obtain ⟨field, hfield, hending⟩ := ih
      by_cases hc : c = sep
      · exact ⟨field, by simp [splitOn, hc, hfield], hending⟩
      · cases hr : splitOn sep (r ++ ending) with
        | nil => exact absurd hr (splitOn_ne_nil _ _)
        | cons w ws =>
            rw [hr, List.mem_cons] at hfield
            rcases hfield with rfl | hfield
            · exact ⟨c :: field, by simp [splitOn, hc, hr], hending.trans (List.suffix_cons _ _)⟩
            · exact ⟨field, by simp [splitOn, hc, hr, hfield], hending⟩

/-- An end without the separator goes on the last field. -/
theorem exists_splitOn_append_eq {sep : α} {ending : List α} (h : sep ∉ ending)
    (s : List α) : ∃ before last, splitOn sep (s ++ ending) = before ++ [last ++ ending] := by
  obtain ⟨before, last, hlast⟩ :=
    (List.eq_nil_or_concat (splitOn sep s)).resolve_left (splitOn_ne_nil sep s)
  rw [List.concat_eq_append] at hlast
  have hsep : sep ∉ last := not_mem_of_mem_splitOn (by rw [hlast]; simp)
  refine ⟨before, last, ?_⟩
  rw [splitOn_append_of_eq_concat hlast, splitOn_of_not_mem (by simp [hsep, h])]

end BucketAccess.Text
