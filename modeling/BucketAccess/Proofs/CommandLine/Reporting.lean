/-
**What validating a file tells about it.**

A file that is validated goes through three stages: its bytes are read as text, the text is read as
a document, and the document is reviewed.  Whatever a file holds should be told by a verdict or by a
record in the log.  There are three exceptions.  Bytes that are no text are not told of at all: the
first stage has nobody to take care of it.  A text may be nested too deep to be read.  And a
document may hold half of a character, which the verdict on it then repeats and which cannot be
printed.

Main definitions:

* `BucketAccess.CommandLine.Reports` — **a run tells what is in a file**.

Main results:

* `BucketAccess.CommandLine.run_validate_of_text`, `BucketAccess.CommandLine.run_validate_of_bytes`
  — the runs on texts and on other bytes;
* `BucketAccess.CommandLine.reports_iff` — **which files are told about, and how the run fails on
  the others**.
-/

import BucketAccess.Proofs.CommandLine.SavedPolicy
import BucketAccess.Proofs.Json.Nesting
import BucketAccess.Proofs.Text.Utf8

set_option relaxedAutoImplicit false
set_option autoImplicit false

namespace BucketAccess.CommandLine

open BucketAccess.Json (OpensTooDeep)
open BucketAccess.Text (Str unifyNewlines)
open BucketAccess.Text.Utf8 (decode encode)

/-! ### Reports -/

/-- **A run tells what is in a file**: it prints the verdict on the document, or a record in the log
says why there is none. -/
inductive Reports (limit : Nat) (settings : Settings) (files : Files.Tree) (bytes : List UInt8) :
    Outcome → Prop where
  | verdict {chars : List Char} {document : Json.Value} {lines : List String}
      {log : List Log.Record} (htext : bytes = encode chars)
      (hread : Json.read limit (String.ofList (unifyNewlines chars)) = .ok document)
      (hlines : verdictLines "Policy" (Policy.review settings.inside document) =
        lines.map Str.ofString) :
      Reports limit settings files bytes
        ⟨.exit (exitCode (Policy.review settings.inside document)), lines, log, files⟩
  | noDocument {chars : List Char} {fault : Json.Fault Json.Place} (htext : bytes = encode chars)
      (hread : Json.read limit (String.ofList (unifyNewlines chars)) = .error fault) :
      Reports limit settings files bytes ⟨.exit 1, [], Log.shown settings.logLevel
        [⟨.error, s!"Invalid JSON syntax: {fault.message}"⟩], files⟩
  | noText {fault : Text.Utf8.Fault} (hdecode : decode bytes = .error fault) :
      Reports limit settings files bytes ⟨.exit 1, [], Log.shown settings.logLevel
        [⟨.error, s!"Invalid JSON syntax: {fault.message}"⟩], files⟩

/-- Nothing is told by a run that fails. -/
theorem not_reports_failed {limit : Nat} {settings : Settings} {files files' : Files.Tree}
    {bytes : List UInt8} {failure : Failure} {printed : List String} {log : List Log.Record} :
    ¬ Reports limit settings files bytes ⟨.failed failure, printed, log, files'⟩ := by
  rintro ⟨⟩

/-! ### Runs -/

section Runs

variable {file : String} {around : Surroundings} {settings : Settings} {bytes : List UInt8}
  {chars : List Char}
  (hword : Command.read ["validate", file] = .ok (.validate file false false))
  (hinput : file ≠ inputWord) (hsettings : Settings.load around.environment = .ok settings)
  (hread : around.files.read (.ofText file.toList) = .ok bytes)

include hword hinput hsettings hread

/-- Bytes that are no text make the run fail. -/
theorem run_validate_of_bytes {fault : Text.Utf8.Fault} (h : decode bytes = .error fault) :
    run ["validate", file] around = ⟨.failed (.encoding fault), [], [], around.files⟩ := by
  have htext := runIn_validatedText_of_read around (w := .fresh around.files) hinput hread
  rw [h] at htext
  rw [run_eq hword hsettings]
  simp only [execute, validate, Work.runIn_bind, htext]
  rfl

/-- **A text is told about as its document is read**, and the verdict on a document is printed
unless there are halves of characters in it. -/
theorem run_validate_of_text (h : decode bytes = .ok chars) :
    (∃ document lines log,
        Json.read around.nesting (String.ofList (unifyNewlines chars)) = .ok document ∧
        verdictLines "Policy" (Policy.review settings.inside document) = lines.map Str.ofString ∧
        run ["validate", file] around =
          ⟨.exit (exitCode (Policy.review settings.inside document)), lines, log, around.files⟩) ∨
      (∃ document halves printed log,
        Json.read around.nesting (String.ofList (unifyNewlines chars)) = .ok document ∧
        firstHalves? (verdictLines "Policy" (Policy.review settings.inside document)) =
          some halves ∧
        run ["validate", file] around =
          ⟨.failed (.unprintable halves), printed, log, around.files⟩) ∨
      (∃ fault, Json.read around.nesting (String.ofList (unifyNewlines chars)) = .error fault ∧
        (∀ c, fault ≠ .tooDeep c) ∧
        run ["validate", file] around = ⟨.exit 1, [], Log.shown settings.logLevel
          [⟨.error, s!"Invalid JSON syntax: {fault.message}"⟩], around.files⟩) ∨
      ∃ c, Json.read around.nesting (String.ofList (unifyNewlines chars)) = .error (.tooDeep c) ∧
        run ["validate", file] around =
          ⟨.failed (.document (.tooDeep c)), [], [], around.files⟩ := by
  have htext := runIn_validatedText_of_read around (w := .fresh around.files) hinput hread
  rw [h] at htext
  rw [run_eq hword hsettings]
  simp only [execute, validate, Bool.false_or, Work.runIn_bind_of_ok htext]
  cases hdocument : Json.read around.nesting (String.ofList (unifyNewlines chars)) with
  | ok document =>
      obtain ⟨log, hreview⟩ :=
        runIn_reviewText_of_ok settings.inside hdocument (.fresh around.files)
      rw [hreview, printEnding]
      cases hlines :
        firstHalves? (verdictLines "Policy" (Policy.review settings.inside document)) with
      | none => exact .inl ⟨document, _, _, rfl, (map_coe_shownTexts hlines).symm, rfl⟩
      | some halves => exact .inr (.inl ⟨document, halves, _, _, rfl, hlines, rfl⟩)
  | error fault =>
      by_cases hdeep : ∃ c, fault = .tooDeep c
      · obtain ⟨c, rfl⟩ := hdeep
        refine .inr (.inr (.inr ⟨c, rfl, ?_⟩))
        simp only [reviewText, hdocument, Work.runIn_throw]
        rfl
      · have hfault : ∀ c, fault ≠ .tooDeep c := fun c hc => hdeep ⟨c, hc⟩
        rw [runIn_reviewText_of_fault settings.inside hdocument hfault]
        exact .inr (.inr (.inl ⟨fault, rfl, hfault, rfl⟩))

end Runs

/-- **Which files are told about, and how the run fails on the others.**  Every text is told about
that is not nested too deep and whose verdict has no half of a character in it.  Bytes that are no
text make the run fail as they are read, a text that is nested too deep as its document is, and
halves as the verdict is printed. -/
theorem reports_iff {file : String} {around : Surroundings} {settings : Settings}
    {bytes : List UInt8}
    (hword : Command.read ["validate", file] = .ok (.validate file false false))
    (hinput : file ≠ inputWord) (hsettings : Settings.load around.environment = .ok settings)
    (hread : around.files.read (.ofText file.toList) = .ok bytes) :
    (Reports around.nesting settings around.files bytes (run ["validate", file] around) ↔
        ∃ chars, bytes = encode chars ∧
          (∀ c, ¬ OpensTooDeep around.nesting c (unifyNewlines chars)) ∧
          ∀ document,
            Json.read around.nesting (String.ofList (unifyNewlines chars)) = .ok document →
              IsPrintable (Policy.review settings.inside document)) ∧
      (∀ fault, (run ["validate", file] around).ending = .failed (.encoding fault) ↔
        decode bytes = .error fault) ∧
      (∀ c, (run ["validate", file] around).ending = .failed (.document (.tooDeep c)) ↔
        ∃ chars, bytes = encode chars ∧ OpensTooDeep around.nesting c (unifyNewlines chars)) ∧
      ∀ halves, (run ["validate", file] around).ending = .failed (.unprintable halves) ↔
        ∃ chars, bytes = encode chars ∧ ∃ document,
          Json.read around.nesting (String.ofList (unifyNewlines chars)) = .ok document ∧
            firstHalves? (verdictLines "Policy" (Policy.review settings.inside document)) =
              some halves := by
  cases hdecode : decode bytes with
  | error fault =>
      have hrun := run_validate_of_bytes hword hinput hsettings hread hdecode
      have hbytes : ∀ chars, bytes ≠ encode chars := by
        intro chars heq
        rw [Text.Utf8.decode_eq_ok_iff.2 heq] at hdecode
        cases hdecode
      rw [hrun]
      exact ⟨by simp [not_reports_failed, hbytes], by simp, by simp [hbytes], by simp [hbytes]⟩
  | ok chars =>
      have htext := Text.Utf8.decode_eq_ok_iff.1 hdecode
      have hunique : ∀ {P : List Char → Prop}, (∃ s, bytes = encode s ∧ P s) ↔ P chars := by
        intro P
        constructor
        · rintro ⟨s, hs, hP⟩
          rw [Text.Utf8.decode_eq_ok_iff.2 hs] at hdecode
          rwa [← Except.ok.inj hdecode]
        · exact fun hP => ⟨chars, htext, hP⟩
      have hdeep : ∀ c, OpensTooDeep around.nesting c (unifyNewlines chars) ↔
          Json.read around.nesting (String.ofList (unifyNewlines chars)) = .error (.tooDeep c) := by
        intro c
        rw [Json.read_eq_tooDeep_iff, String.toList_ofList]
      simp only [hunique, hdeep]
      rcases run_validate_of_text hword hinput hsettings hread hdecode with
        ⟨document, lines, log, hdocument, hlines, hrun⟩ |
        ⟨document, halves, printed, log, hdocument, hhalves, hrun⟩ |
        ⟨fault, hdocument, hfault, hrun⟩ | ⟨c, hdocument, hrun⟩
      · have hnone : firstHalves? (verdictLines "Policy" (Policy.review settings.inside document)) =
            none := by
          rw [hlines, firstHalves?_map_coe]
        have hprintable := firstHalves?_verdictLines_eq_none_iff.1 hnone
        have hreports : Reports around.nesting settings around.files bytes
            (run ["validate", file] around) := by
          rw [hrun]
          exact .verdict htext hdocument hlines
        exact ⟨by simp [hreports, hdocument, hprintable], by simp [hrun],
          by simp [hrun, hdocument], by simp [hrun, hdocument, hnone]⟩
      · have hnot : ¬ IsPrintable (Policy.review settings.inside document) := by
          rw [← firstHalves?_verdictLines_eq_none_iff, hhalves]
          simp
        exact ⟨by simp [hrun, not_reports_failed, hdocument, hnot], by simp [hrun],
          by simp [hrun, hdocument], by simp [hrun, hdocument, hhalves]⟩
      · have hreports : Reports around.nesting settings around.files bytes
            (run ["validate", file] around) := by
          rw [hrun]
          exact .noDocument htext hdocument
        exact ⟨by simp [hreports, hdocument, hfault], by simp [hrun],
          by simp [hrun, hdocument, hfault], by simp [hrun, hdocument]⟩
      · exact ⟨by simp [hrun, not_reports_failed, hdocument], by simp [hrun],
          by simp [hrun, hdocument], by simp [hrun, hdocument]⟩

/-- A name with half of a character in it is unknown, and telling so fails. -/
example :
    let half : List Char := "\x7b\"\\ud800\": 1\x7d".toList
    let around :=
      { bareSurroundings with files := ⟨[], [(["p.json".toList], .file (encode half))]⟩ }
    (run ["validate", "p.json"] around).ending.code? = none ∧
      (run ["validate", "p.json"] around).printed = ["Policy: INVALID",
        "  ✗ Missing required field: Version", "  ✗ Missing required field: Statement"] := by
  decide +kernel

/-- Surroundings with a file whose only byte starts no character. -/
def garbledSurroundings : Surroundings :=
  { bareSurroundings with files := ⟨[], [(["p.json".toList], .file [0xFF])]⟩ }

theorem load_garbled : Settings.load garbledSurroundings.environment =
    .ok ⟨"GeneratedPolicy", .ofText "policies".toList, .info, false⟩ := by
  rfl

theorem read_garbled :
    garbledSurroundings.files.read (.ofText "p.json".toList) = .ok [0xFF] := by
  decide +kernel

/-- Validating this file. -/
theorem reports_iff_garbled :
    Command.read ["validate", "p.json"] = .ok (.validate "p.json" false false) ∧
      "p.json" ≠ inputWord ∧
      (Reports 990 ⟨"GeneratedPolicy", .ofText "policies".toList, .info, false⟩
          garbledSurroundings.files [0xFF] (run ["validate", "p.json"] garbledSurroundings) ↔
        ∃ chars, [0xFF] = encode chars ∧ (∀ c, ¬ OpensTooDeep 990 c (unifyNewlines chars)) ∧
          ∀ document, Json.read 990 (String.ofList (unifyNewlines chars)) = .ok document →
            IsPrintable (Policy.review false document)) ∧
      (∀ fault, (run ["validate", "p.json"] garbledSurroundings).ending =
          .failed (.encoding fault) ↔ decode [0xFF] = .error fault) ∧
      (∀ c, (run ["validate", "p.json"] garbledSurroundings).ending =
          .failed (.document (.tooDeep c)) ↔
        ∃ chars, [0xFF] = encode chars ∧ OpensTooDeep 990 c (unifyNewlines chars)) ∧
      ∀ halves, (run ["validate", "p.json"] garbledSurroundings).ending =
          .failed (.unprintable halves) ↔
        ∃ chars, [0xFF] = encode chars ∧ ∃ document,
          Json.read 990 (String.ofList (unifyNewlines chars)) = .ok document ∧
            firstHalves? (verdictLines "Policy" (Policy.review false document)) = some halves := by
  have hword : Command.read ["validate", "p.json"] = .ok (.validate "p.json" false false) :=
    read_validate_of_head (by decide)
  have hinput : "p.json" ≠ inputWord := by decide
  exact ⟨hword, hinput, reports_iff hword hinput load_garbled read_garbled⟩

/-- Nothing is told about it. -/
theorem not_reports_garbled :
    garbledSurroundings.files.read (.ofText "p.json".toList) = .ok [0xFF] ∧
      run ["validate", "p.json"] garbledSurroundings =
        ⟨.failed (.encoding ⟨0, [0xFF], .badStart⟩), [], [], garbledSurroundings.files⟩ ∧
      ∀ limit settings, ¬ Reports limit settings garbledSurroundings.files [0xFF]
        (run ["validate", "p.json"] garbledSurroundings) := by
  have hdecode : decode [0xFF] = .error ⟨0, [0xFF], .badStart⟩ := by rfl
  have hrun := run_validate_of_bytes (read_validate_of_head (by decide)) (by decide) load_garbled
    read_garbled hdecode
  refine ⟨read_garbled, hrun, fun limit settings => ?_⟩
  rw [hrun]
  exact not_reports_failed

end BucketAccess.CommandLine
