/-
**What is printed of several lines.**

A line with half of a character in it cannot be printed, and printing several lines stops there.  So
the printout of lines is the texts in front of the first such line, and halves are left over unless
all lines are texts.  The lines about a verdict have halves when its messages have; the words in
front of a message never do.

Main definitions:

* `BucketAccess.CommandLine.shownTexts`, `BucketAccess.CommandLine.firstHalves?` — what is printed
  of several lines, and the halves that stop it;
* `BucketAccess.CommandLine.IsPrintable` — a verdict whose messages are texts.

Main results:

* `BucketAccess.CommandLine.runIn_printLines` — **printing several lines**;
* `BucketAccess.CommandLine.firstHalves?_eq_none_iff` — lines are printed to the end when they are
  texts;
* `BucketAccess.CommandLine.firstHalves?_verdictLines_eq_none_iff` — **which verdicts are printed to
  the end**.
-/

import BucketAccess.CommandLine.Run
import BucketAccess.Proofs.Text.Points
import BucketAccess.Proofs.Work

set_option relaxedAutoImplicit false
set_option autoImplicit false

namespace BucketAccess.CommandLine

open BucketAccess.Text (Str)

/-! ### Several lines -/

/-- What is printed of several lines: the texts in front of the first line that is none. -/
def shownTexts : List Str → List String
  | [] => []
  | line :: rest =>
      match line.text with
      | .ok text => text :: shownTexts rest
      | .error _ => []

/-- The halves that stop the printing of several lines. -/
def firstHalves? : List Str → Option Str.Halves
  | [] => none
  | line :: rest =>
      match line.text with
      | .ok _ => firstHalves? rest
      | .error halves => some halves

/-- How printing several lines ends. -/
def printEnding (lines : List Str) : Except Failure Unit :=
  match firstHalves? lines with
  | none => .ok ()
  | some halves => .error (.unprintable halves)

/-- **Printing several lines.** -/
theorem runIn_printLines (lines : List Str) (w : Workspace) :
    (printLines lines).runIn w =
      (printEnding lines, { w with printed := w.printed ++ shownTexts lines }) := by
  induction lines generalizing w with
  | nil => simp [printLines, printEnding, firstHalves?, shownTexts]
  | cons line rest ih =>
      have hcons : printLines (line :: rest) = Work.print line >>= fun _ => printLines rest := rfl
      rw [hcons, Work.runIn_bind, Work.runIn_print]
      cases htext : line.text with
      | error halves => simp [printEnding, firstHalves?, shownTexts, htext]
      | ok text => simp [printEnding, firstHalves?, shownTexts, htext, ih]

/-- **Lines are printed to the end when all of them are texts.** -/
theorem firstHalves?_eq_none_iff {lines : List Str} :
    firstHalves? lines = none ↔ ∀ line ∈ lines, line.IsText := by
  induction lines with
  | nil => simp [firstHalves?]
  | cons line rest ih =>
      cases htext : line.text with
      | ok text =>
          obtain rfl := Str.text_eq_ok_iff.1 htext
          simp [firstHalves?, ih]
      | error halves =>
          have hnone : ¬ line.IsText := by
            rintro ⟨text, rfl⟩
            simp at htext
          simp [firstHalves?, htext, hnone]

@[simp] theorem firstHalves?_map_coe (texts : List String) :
    firstHalves? (texts.map Str.ofString) = none := by
  simp [firstHalves?_eq_none_iff]

/-- Lines that are printed to the end are what is printed of them. -/
theorem map_coe_shownTexts {lines : List Str} (h : firstHalves? lines = none) :
    (shownTexts lines).map Str.ofString = lines := by
  induction lines with
  | nil => rfl
  | cons line rest ih =>
      obtain ⟨⟨text, rfl⟩, hrest⟩ := List.forall_mem_cons.1 (firstHalves?_eq_none_iff.1 h)
      simp [shownTexts, ih (firstHalves?_eq_none_iff.2 hrest)]

/-! ### Verdicts -/

/-- A verdict whose messages are texts. -/
def IsPrintable (v : Verdict Str) : Prop :=
  ∀ message ∈ v.errors ++ v.warnings, message.IsText

/-- The messages of a check of texts are texts. -/
theorem isPrintable_map_coe (v : Verdict String) : IsPrintable (v.map Str.ofString) := by
  simp [IsPrintable, Verdict.map, or_imp, forall_and]

/-- **Which verdicts are printed to the end.** -/
theorem firstHalves?_verdictLines_eq_none_iff {title : String} {v : Verdict Str} :
    firstHalves? (verdictLines title v) = none ↔ IsPrintable v := by
  rw [firstHalves?_eq_none_iff, IsPrintable]
  simp only [verdictLines, List.forall_mem_cons, List.forall_mem_append, List.forall_mem_map,
    Str.isText_append_iff, Str.isText_coe, true_and]

/-- The first line about a verdict is always printed. -/
theorem shownTexts_verdictLines (title : String) (v : Verdict Str) :
    ∃ rest, shownTexts (verdictLines title v) =
      (title ++ ": " ++ if v.isValid then "VALID" else "INVALID") :: rest := by
  rw [verdictLines, shownTexts, Str.text_coe]
  exact ⟨_, rfl⟩

end BucketAccess.CommandLine
