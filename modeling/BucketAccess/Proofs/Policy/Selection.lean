/-
**Actions on the lines of a file.**

Actions that come in a file stand on lines of their own.  The lines may end in any of three ways,
even in one file, there may be blanks around an action, and lines may be left blank.  None of this
matters: what is read from the file are the actions on its lines, all of them and in their order.

Main definitions:

* `BucketAccess.Policy.IsEntry` — actions that can stand on a line;
* `BucketAccess.Policy.LineEnd` — the ways in which a line ends;
* `BucketAccess.Policy.Row`, `BucketAccess.Policy.Rows` — a line, and a whole text, with the actions
  that were written into it.

Main results:

* `BucketAccess.Text.trim_padded` — blanks at the two ends of a text do not survive trimming;
* `BucketAccess.Policy.typedActions_of_rows` — **the actions that are read are those that were
  written**.
-/

import BucketAccess.Policy.Selection
import BucketAccess.Text.Lines

set_option relaxedAutoImplicit false
set_option autoImplicit false

namespace BucketAccess.Text

/-! ### Blanks and line endings -/

/-- **Blanks at the two ends of a text do not survive trimming.** -/
theorem trim_padded {lead trail : List Char} (hlead : ∀ c ∈ lead, isBlank c = true)
    (htrail : ∀ c ∈ trail, isBlank c = true) (s : List Char) :
    trim (lead ++ (s ++ trail)) = trim s := by
  have hright : ∀ t : List Char, trimRight (t ++ trail) = trimRight t := by
    intro t
    have hreverse : ∀ c ∈ trail.reverse, isBlank c = true := by simpa using htrail
    rw [trimRight, List.reverse_append, List.dropWhile_append_of_pos hreverse, trimRight]
  have hleft : trimLeft (lead ++ (s ++ trail)) = trimLeft (s ++ trail) :=
    List.dropWhile_append_of_pos hlead
  have hmiddle : trimLeft (s ++ trail) =
      if (trimLeft s).isEmpty then trimLeft trail else trimLeft s ++ trail :=
    List.dropWhile_append
  rw [trim, hleft, hmiddle, trim]
  split
  · next hempty =>
      have htrailing : (trail ++ []).dropWhile isBlank = [] := List.dropWhile_append_of_pos htrail
      rw [List.append_nil] at htrailing
      rw [trimLeft, htrailing, List.isEmpty_iff.1 hempty]
  · exact hright _

/-- A start without carriage returns is left as it is. -/
theorem unifyNewlines_append {s : List Char} (h : '\r' ∉ s) (t : List Char) :
    unifyNewlines (s ++ t) = s ++ unifyNewlines t := by
  induction s with
  | nil => rfl
  | cons c rest ih =>
      simp only [List.mem_cons, not_or] at h
      obtain ⟨hc, hrest⟩ := h
      rw [List.cons_append, unifyNewlines, if_neg (Ne.symm hc), ih hrest, List.cons_append]
      -- the character is no carriage return, so it does not take a line feed with it
      rintro _ rfl
      exact absurd rfl hc

end BucketAccess.Text

namespace BucketAccess.Policy

open BucketAccess.Text

/-! ### Lines -/

/-- Actions that can stand on a line: there is something in them, and neither blanks at the ends nor
a line ending inside. -/
structure IsEntry (name : String) : Prop where
  ne_empty : name ≠ ""
  strip : Text.strip name = name
  noLineFeed : '\n' ∉ name.toList
  noCarriageReturn : '\r' ∉ name.toList

/-- Blanks that do not end a line. -/
def IsPadding (s : List Char) : Prop :=
  ∀ c ∈ s, isBlank c = true ∧ c ≠ '\n' ∧ c ≠ '\r'

/-- The ways in which a line ends. -/
inductive LineEnd where
  | lineFeed
  | carriageReturn
  /-- A carriage return and a line feed. -/
  | both

/-- How a line ends, as it is written. -/
def LineEnd.text : LineEnd → List Char
  | .lineFeed => ['\n']
  | .carriageReturn => ['\r']
  | .both => ['\r', '\n']

/-- A line and the actions that were written into it: one with blanks around it, or none. -/
inductive Row : List Char → List String → Prop
  | blank {padding : List Char} (hpadding : IsPadding padding) : Row padding []
  | entry {lead trail : List Char} {name : String} (hlead : IsPadding lead) (hentry : IsEntry name)
      (htrail : IsPadding trail) : Row (lead ++ (name.toList ++ trail)) [name]

/-- A text and the actions that were written on its lines.  Behind the last line ending there is
one more line, which may be blank. -/
inductive Rows : List Char → List String → Prop
  | last {row : List Char} {names : List String} (hrow : Row row names) : Rows row names
  | more {row rest : List Char} {names others : List String} (ending : LineEnd)
      (hrow : Row row names) (hrest : Rows rest others) :
      Rows (row ++ (ending.text ++ rest)) (names ++ others)

section Padding

variable {s : List Char}

theorem IsPadding.blank (h : IsPadding s) : ∀ c ∈ s, isBlank c = true :=
  fun c hc => (h c hc).1

theorem IsPadding.not_mem {c : Char} (h : IsPadding s) (hc : c = '\n' ∨ c = '\r') : c ∉ s := by
  intro hmem
  obtain ⟨-, hfeed, hreturn⟩ := h c hmem
  exact hc.elim hfeed hreturn

/-- Nothing in a line ends it. -/
theorem Row.not_mem {c : Char} {names : List String} (h : Row s names)
    (hc : c = '\n' ∨ c = '\r') : c ∉ s := by
  cases h with
  | blank hpadding => exact hpadding.not_mem hc
  | entry hlead hentry htrail =>
      simp only [List.mem_append, not_or]
      refine ⟨hlead.not_mem hc, ?_, htrail.not_mem hc⟩
      rcases hc with rfl | rfl
      · exact hentry.noLineFeed
      · exact hentry.noCarriageReturn

end Padding

/-! ### Reading -/

/-- The action of a line, read without the blanks around it. -/
theorem typedActions_of_row {s : List Char} {names : List String} (h : Row s names) :
    typedActions s = names := by
  have hsplit : splitOn '\n' s = [s] := splitOn_of_not_mem (h.not_mem (.inl rfl))
  rw [typedActions, hsplit]
  cases h with
  | blank hpadding =>
      have htrim := trim_padded hpadding.blank (by simp : ∀ c ∈ [], isBlank c = true) []
      rw [List.append_nil, List.append_nil] at htrim
      simp [htrim]
  | entry hlead hentry htrail =>
      next name =>
      have htrim := trim_padded hlead.blank htrail.blank name.toList
      have hname : trim name.toList = name.toList := by
        simpa [strip] using congrArg String.toList hentry.strip
      simp [htrim, hname, hentry.ne_empty]

/-- A line ending becomes a line feed, and what stands behind it is read as if it began the text.  A
carriage return may take a line feed of the next line with it, and then this line is blank. -/
theorem exists_unifyNewlines_ending (ending : LineEnd) (rest : List Char) :
    ∃ unified, unifyNewlines (ending.text ++ rest) = '\n' :: unified ∧
      typedActions unified = typedActions (unifyNewlines rest) := by
  have hfeed : ∀ t, unifyNewlines ('\n' :: t) = '\n' :: unifyNewlines t :=
    unifyNewlines_append (s := ['\n']) (by simp)
  cases ending with
  | lineFeed => exact ⟨unifyNewlines rest, hfeed rest, rfl⟩
  | both => exact ⟨unifyNewlines rest, rfl, rfl⟩
  | carriageReturn =>
      by_cases h : ∃ more, rest = '\n' :: more
      · obtain ⟨more, rfl⟩ := h
        refine ⟨unifyNewlines more, rfl, ?_⟩
        rw [hfeed]
        exact (typedActions_append [] (unifyNewlines more)).symm
      · have hreturn : unifyNewlines ('\r' :: rest) = '\n' :: unifyNewlines rest := by
          rw [unifyNewlines, if_pos rfl]
          intro more _ hrest
          exact h ⟨more, hrest⟩
        exact ⟨unifyNewlines rest, hreturn, rfl⟩

/-- **The actions that are read from a text are those that were written on its lines.** -/
theorem typedActions_of_rows {s : List Char} {names : List String} (h : Rows s names) :
    typedActions (unifyNewlines s) = names := by
  induction h with
  | last hrow =>
      rw [unifyNewlines_of_not_mem (hrow.not_mem (.inr rfl)), typedActions_of_row hrow]
  | more ending hrow hrest ih =>
      next row rest names others =>
      obtain ⟨unified, hunified, hactions⟩ := exists_unifyNewlines_ending ending rest
      rw [unifyNewlines_append (hrow.not_mem (.inr rfl)), hunified, typedActions_append,
        typedActions_of_row hrow, hactions, ih]

end BucketAccess.Policy
