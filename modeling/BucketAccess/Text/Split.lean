/-
**Cutting a text at a separator, and putting it together again.**

Resource names, paths and lists of actions are texts cut into fields by one separator character.
Cutting never loses anything: the fields put together with the separator between them give the
text back, and no field holds the separator.

Main definitions:

* `BucketAccess.Text.splitOn` — the fields of a text;
* `BucketAccess.Text.joinWith` — fields put together with a separator;
* `BucketAccess.Text.contains` — whether one text occurs inside another;
* `BucketAccess.Text.dropLead?` — what follows a given start.

Main results:

* `BucketAccess.Text.joinWith_splitOn` — **cutting loses nothing**;
* `BucketAccess.Text.not_mem_of_mem_splitOn` — no field holds the separator;
* `BucketAccess.Text.splitOn_of_not_mem`, `BucketAccess.Text.splitOn_append` — the fields of a
  text without the separator, and of a text with a known first field;
* `BucketAccess.Text.contains_iff` — occurrence is being an infix.
-/

set_option relaxedAutoImplicit false
set_option autoImplicit false

namespace BucketAccess.Text

variable {α : Type} [DecidableEq α]

/-! ### Fields -/

/-- The fields of a text between the occurrences of a separator; there is always at least one. -/
def splitOn (sep : α) : List α → List (List α)
  | [] => [[]]
  | c :: r => if c = sep then [] :: splitOn sep r else (splitOn sep r).modifyHead (c :: ·)

/-- Fields put together with a separator between neighbours. -/
def joinWith {α : Type} (sep : α) : List (List α) → List α
  | [] => []
  | [field] => field
  | field :: rest => field ++ sep :: joinWith sep rest

theorem splitOn_ne_nil (sep : α) (s : List α) : splitOn sep s ≠ [] := by
  induction s with
  | nil => simp [splitOn]
  | cons c r ih =>
      by_cases h : c = sep
      · simp [splitOn, h]
      · simpa [splitOn, h, List.modifyHead_eq_nil_iff] using ih

/-- **Cutting loses nothing**: the fields put together give the text back. -/
theorem joinWith_splitOn (sep : α) (s : List α) : joinWith sep (splitOn sep s) = s := by
  induction s with
  | nil => rfl
  | cons c r ih =>
      have hne := splitOn_ne_nil sep r
      by_cases h : c = sep
      · cases hr : splitOn sep r with
        | nil => exact absurd hr hne
        | cons w ws =>
            rw [hr] at ih
            simp [splitOn, h, hr, joinWith, ih]
      · cases hr : splitOn sep r with
        | nil => exact absurd hr hne
        | cons w ws =>
            rw [hr] at ih
            cases ws <;> simp_all [splitOn, joinWith]

/-- No field holds the separator. -/
theorem not_mem_of_mem_splitOn {sep : α} {s field : List α} (h : field ∈ splitOn sep s) :
    sep ∉ field := by
  induction s generalizing field with
  | nil => simp_all [splitOn]
  | cons c r ih =>
      by_cases hc : c = sep
      · simp only [splitOn, hc, if_true, List.mem_cons] at h
        rcases h with rfl | h
        · simp
        · exact ih h
      · cases hr : splitOn sep r with
        | nil => exact absurd hr (splitOn_ne_nil sep r)
        | cons w ws =>
            simp only [splitOn, hc, if_false, hr, List.modifyHead_cons, List.mem_cons] at h
            rcases h with rfl | h
            · have hw : sep ∉ w := ih (by simp [hr])
              simp [hw, Ne.symm hc]
            · exact ih (by simp [hr, h])

/-- A text without the separator is one field. -/
theorem splitOn_of_not_mem {sep : α} {s : List α} (h : sep ∉ s) : splitOn sep s = [s] := by
  induction s with
  | nil => rfl
  | cons c r ih =>
      simp only [List.mem_cons, not_or] at h
      simp [splitOn, Ne.symm h.1, ih h.2]

/-- A text that starts with a known field and the separator. -/
theorem splitOn_append {sep : α} {field : List α} (h : sep ∉ field) (s : List α) :
    splitOn sep (field ++ sep :: s) = field :: splitOn sep s := by
  induction field with
  | nil => simp [splitOn]
  | cons c r ih =>
      simp only [List.mem_cons, not_or] at h
      simp [splitOn, Ne.symm h.1, ih h.2]

/-! ### Occurrence -/

/-- Whether one text occurs inside another. -/
def contains (part : List α) : List α → Bool
  | [] => part.isEmpty
  | c :: r => part.isPrefixOf (c :: r) || contains part r

/-- Occurrence is being an infix. -/
theorem contains_iff {part s : List α} : contains part s = true ↔ part <:+: s := by
  induction s with
  | nil => simp [contains]
  | cons c r ih => simp [contains, ih, List.infix_cons_iff]

/-- What follows a given start of a text, or nothing where the text starts otherwise. -/
def dropLead? (lead s : List α) : Option (List α) :=
  if lead.isPrefixOf s then some (s.drop lead.length) else none

theorem dropLead?_eq_some_iff {lead s rest : List α} :
    dropLead? lead s = some rest ↔ s = lead ++ rest := by
  unfold dropLead?
  constructor
  · intro h
    split at h
    · next hp =>
        obtain ⟨t, rfl⟩ := List.isPrefixOf_iff_prefix.1 hp
        simp_all
    · simp at h
  · rintro rfl
    simp

end BucketAccess.Text
