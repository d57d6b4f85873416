/-
**What commands leave.**

Commands print documents and verdicts, review documents, read texts and save policies.  What each of
these steps prints and what it gives is described here, so that it need not be opened again.

Main results:

* `BucketAccess.CommandLine.runIn_printVerdict`, `BucketAccess.CommandLine.runIn_reviewDocument` —
  a verdict, and its lines as far as they can be printed;
* `BucketAccess.CommandLine.runIn_readText_of_read`, `BucketAccess.CommandLine.runIn_save` — the
  text of a file, and a policy that is saved;
* `BucketAccess.CommandLine.runIn_validatedText_of_read`,
  `BucketAccess.CommandLine.runIn_reviewText_of_ok`,
  `BucketAccess.CommandLine.runIn_reviewText_of_fault` — how a file is validated;
* `BucketAccess.CommandLine.runIn_validatedText`,
  `BucketAccess.CommandLine.runIn_reviewText_of_excluded` — how a saved policy is.
-/

import BucketAccess.Proofs.CommandLine.Printout
import BucketAccess.Proofs.Policy.Draft
import BucketAccess.Proofs.Saving

set_option relaxedAutoImplicit false
set_option autoImplicit false

namespace BucketAccess.CommandLine

open BucketAccess.Json (Value)
open BucketAccess.Text (Str)

variable {w w' : Workspace}

/-! ### Printing -/

@[simp] theorem runIn_printDocument (document : Value) (w : Workspace) :
    (printDocument document).runIn w =
      (.ok (), { w with printed := w.printed ++ [document.render Json.indented] }) :=
  Work.runIn_print_coe _ w

theorem runIn_printVerdict (title : String) (v : Verdict Str) (w : Workspace) :
    (printVerdict title v false).runIn w = (printEnding (verdictLines title v),
      { w with printed := w.printed ++ shownTexts (verdictLines title v) }) := by
  rw [printVerdict, if_neg Bool.false_ne_true, runIn_printLines]

/-! ### Reviews -/

/-- A review gives the verdict on the document, and leaves nothing but a record. -/
theorem runIn_reviewDocument (inside : Bool) (document : Value) (w : Workspace) :
    ∃ log, (Generator.reviewDocument inside document).runIn w =
      (.ok (Policy.review inside document), { w with log := log }) := by
  simp only [Generator.reviewDocument]
  cases Generator.reviewText document (Policy.review inside document) with
  | none => exact ⟨w.log, rfl⟩
  | some text => exact ⟨w.log ++ [⟨.debug, text⟩], rfl⟩

theorem exitCode_eq_zero_iff {v : Verdict Str} : exitCode v = 0 ↔ v.isValid = true := by
  unfold exitCode
  cases v.isValid <;> simp

/-! ### Reading -/

/-- The bytes of a file are read as text, with the fault of the bytes if they are none. -/
theorem runIn_readText_of_read {file : String} {bytes : List UInt8} {w : Workspace}
    (hread : w.files.read (.ofText file.toList) = .ok bytes) :
    (readText file).runIn w =
      match Text.Utf8.decode bytes with
      | .ok chars => (.ok (String.ofList (Text.unifyNewlines chars)), w)
      | .error fault => (.error (.encoding fault), w) := by
  rw [readText, Work.runIn_bind_of_ok (Work.runIn_askFiles_ok_iff.2 ⟨hread, rfl⟩), decodeText,
    Work.runIn_bind]
  cases Text.Utf8.decode bytes <;> rfl

/-! ### Saving -/

theorem runIn_save {g : Generator} {tag : String} {document : Value} {bucket : Option String}
    {path : Files.Path} (h : (g.save tag document bucket).runIn w = (.ok path, w')) :
    path = Saving.target g.outputDir bucket ∧
      w'.files.read path = .ok (Text.Utf8.encode (Saving.savedText document)) ∧
        w'.printed = w.printed := by
  obtain ⟨saved, w₁, hsave, h⟩ := Work.runIn_bind_ok_iff.1 h
  have hread := Saving.read_of_save hsave
  rw [Work.runIn_bind_of_ok (Work.runIn_record _ _ _)] at h
  obtain ⟨hpath, rfl⟩ := Prod.mk.inj h
  obtain rfl := Except.ok.inj hpath
  exact hread

/-! ### Validating -/

/-- A file that is validated is read as text. -/
theorem runIn_validatedText_of_read {file : String} (around : Surroundings) {bytes : List UInt8}
    {w : Workspace} (hfile : file ≠ inputWord)
    (hread : w.files.read (.ofText file.toList) = .ok bytes) :
    (validatedText file around).runIn w =
      match Text.Utf8.decode bytes with
      | .ok chars => (.ok (String.ofList (Text.unifyNewlines chars)), w)
      | .error fault => (.error (.encoding fault), w) := by
  rw [validatedText, if_neg hfile, runIn_readText_of_read hread]

/-- A saved policy is read as it was written. -/
theorem runIn_validatedText {file : String} {around : Surroundings} {document : Value}
    (hfile : file ≠ inputWord) (hwf : document.WellFormed)
    (hread : w.files.read (.ofText file.toList) =
      .ok (Text.Utf8.encode (Saving.savedText document))) :
    (validatedText file around).runIn w =
      (.ok (String.ofList (Saving.savedText document)), w) := by
  rw [runIn_validatedText_of_read around hfile hread, Saving.decode_savedText hwf]
  simp only [Saving.unifyNewlines_savedText hwf]

/-- The document in a text is reviewed, and the verdict is printed as far as it can be. -/
theorem runIn_reviewText_of_ok {limit : Nat} {text : String} {document : Value} (inside : Bool)
    (h : Json.read limit text = .ok document) (w : Workspace) :
    ∃ log, (reviewText limit text inside false).runIn w =
      ((printEnding (verdictLines "Policy" (Policy.review inside document))).map fun _ =>
          exitCode (Policy.review inside document),
        { w with
          log := log
          printed := w.printed ++
            shownTexts (verdictLines "Policy" (Policy.review inside document)) }) := by
  obtain ⟨log, hreview⟩ := runIn_reviewDocument inside document w
  refine ⟨log, ?_⟩
  simp only [reviewText, h]
  rw [Work.runIn_bind_of_ok hreview, Work.runIn_bind, runIn_printVerdict]
  cases printEnding (verdictLines "Policy" (Policy.review inside document)) <;> rfl

/-- A text that is no document is told of, unless it is nested too deep. -/
theorem runIn_reviewText_of_fault {limit : Nat} {text : String} {fault : Json.Fault Json.Place}
    (inside : Bool) (h : Json.read limit text = .error fault) (hfault : ∀ c, fault ≠ .tooDeep c)
    (w : Workspace) :
    (reviewText limit text inside false).runIn w =
      (.ok 1, { w with log := w.log ++ [⟨.error, s!"Invalid JSON syntax: {fault.message}"⟩] }) := by
  have hrun : reviewText limit text inside false = (do
      Work.record .error s!"Invalid JSON syntax: {fault.message}"
      return 1 : Work Nat) := by
    cases fault with
    | tooDeep c => exact absurd rfl (hfault c)
    | malformed | excluded | tooManyDigits => simp only [reviewText, h]
  rw [hrun, Work.runIn_bind_of_ok (Work.runIn_record _ _ _)]
  rfl

/-- A text with an excluded word is no document, and nothing is reviewed. -/
theorem runIn_reviewText_of_excluded {limit : Nat} {text word : String} (inside : Bool)
    (h : Json.read limit text = .error (.excluded word)) (w : Workspace) :
    (reviewText limit text inside false).runIn w =
      (.ok 1, { w with log := w.log ++
        [⟨.error, s!"Invalid JSON syntax: {Json.Fault.message (.excluded word)}"⟩] }) := by
  exact runIn_reviewText_of_fault inside h (by simp) w

end BucketAccess.CommandLine
