/-
**What failing runs leave behind.**

A run that generates a policy gives an exit code other than zero for one of five reasons: the name
of the bucket is no name, no preset has the given name, there are no actions, the condition is no
document, or the policy has been made and its review has found errors.  For the first four of them
nothing is saved, since there is nothing to save.  In the last case the policy is there and has been
shown, and what becomes of it is up to whoever has asked for it: it is saved if that was asked for,
and the exit code tells about the errors.

Main definitions:

* `BucketAccess.CommandLine.ShowsErrors` — a run has shown a policy and errors in it;
* `BucketAccess.CommandLine.HasNewTag` — the draft of the policy is a new file.

Main results:

* `BucketAccess.CommandLine.exists_request_of_exit` — a run with an exit code has read its request;
* `BucketAccess.CommandLine.files_of_exit_ne_zero` — **a failing run changes no file, unless it has
  shown a policy with errors that is to be saved**.
-/

import BucketAccess.Proofs.CommandLine.Generating
import BucketAccess.Proofs.CommandLine.SavedPolicy
import BucketAccess.Proofs.Saving.Outcome

set_option relaxedAutoImplicit false
set_option autoImplicit false

namespace BucketAccess.CommandLine

open BucketAccess.Files (Tree)
open BucketAccess.Json (Value)
open BucketAccess.Policy (Draft)
open BucketAccess.Text (Str strip)

/-! ### What is shown -/

/-- A run has shown a policy, and below it the verdict of a review that has found errors. -/
structure ShowsErrors (settings : Settings) (d : Draft) (out : Outcome) : Prop where
  invalid : (Policy.review settings.inside d.document).isValid = false
  printed : out.printed = d.document.render Json.indented ::
    shownTexts (verdictLines "Policy" (Policy.review settings.inside d.document))

/-- A policy is shown as an object, which no verdict starts like. -/
theorem render_document_ne (d : Draft) (v : Verdict Str) (lines : List String) :
    d.document.render Json.indented :: lines ≠ shownTexts (verdictLines "Bucket name" v) := by
  obtain ⟨rest, hrest⟩ := shownTexts_verdictLines "Bucket name" v
  intro h
  have hrender : (d.document.render Json.indented).toList.head? = some '\x7b' := by
    rw [Value.render, String.toList_ofList]
    rfl
  rw [hrest, List.cons.injEq] at h
  rw [h.1, String.toList_append, String.toList_append, List.append_assoc] at hrender
  exact absurd hrender (by simp)

/-- The text that is saved is the one that is shown. -/
theorem savedText_of_render {v v' : Value} (h : v.render Json.indented = v'.render Json.indented) :
    Saving.savedText v = Saving.savedText v' := by
  have hwritten := String.ofList_inj.1 h
  rw [Saving.savedText, Saving.savedText, hwritten]

/-- Only a review that has found errors gives an exit code other than zero. -/
theorem reviewCode_ne_zero {asked inside : Bool} {document : Value}
    (h : reviewCode asked inside document ≠ 0) :
    reviewCode asked inside document = 1 ∧ (Policy.review inside document).isValid = false ∧
      reviewLines asked inside document =
        verdictLines "Policy" (Policy.review inside document) := by
  cases asked with
  | false => exact absurd rfl h
  | true =>
      cases hvalid : (Policy.review inside document).isValid with
      | true => simp [reviewCode, exitCode, hvalid] at h
      | false => simp [reviewCode, reviewLines, exitCode, hvalid]

/-! ### Requests -/

/-- A command line that starts with the name of the command asks for a policy. -/
theorem exists_request_of_read {words : List String} {command : Command}
    (h : Command.read ("generate" :: words) = .ok command) :
    ∃ request, command = .generate request := by
  have hname : Command.read ("generate" :: words) = _ := read_name .generate words
  rw [hname] at h
  split at h
  · simp at h
  · split at h
    · exact ⟨_, (Except.ok.inj h).symm⟩
    · simp at h

/-- A run with an exit code has read its request and its settings. -/
theorem exists_request_of_exit {words : List String} {around : Surroundings} {code : Nat}
    (hexit : (run ("generate" :: words) around).ending = .exit code) :
    ∃ request settings, Command.read ("generate" :: words) = .ok (.generate request) ∧
      Settings.load around.environment = .ok settings := by
  unfold run runFrom at hexit
  cases hread : Command.read ("generate" :: words) with
  | error reason => cases reason <;> simp [hread, Outcome.untouched] at hexit
  | ok command =>
      obtain ⟨request, rfl⟩ := exists_request_of_read hread
      cases hsettings : Settings.load around.environment with
      | error fault => simp [hread, hsettings, Outcome.untouched] at hexit
      | ok settings => exact ⟨request, settings, rfl, rfl⟩

/-! ### Files -/

/-- The tag of a run is new: it ends in a digit, as numbers do, and once the directories are made no
file has the name of the draft. -/
def HasNewTag (request : GenerateRequest) (settings : Settings) (around : Surroundings) : Prop :=
  around.tag.toList.getLast?.any Text.isDigit = true ∧
    ((around.files.layDirectories (generatorOf request settings).outputDir).1.read
      (Saving.draftOf (Saving.target (generatorOf request settings).outputDir
        (request.bucket.map strip)) around.tag)).toOption = none

/-- What a policy leaves in the files that goes on to be saved in spite of errors. -/
theorem replaces_of_save {request : GenerateRequest} {settings : Settings} {around : Surroundings}
    {document : Value} {w w' : Workspace} {path : Files.Path} (hfiles : w.files = around.files)
    (htag : HasNewTag request settings around)
    (hsaved : ((generatorOf request settings).save around.tag document
      (request.bucket.map strip)).runIn w = (.ok path, w')) :
    Tree.Replaces (Saving.target (generatorOf request settings).outputDir
      (request.bucket.map strip)) (Text.Utf8.encode (Saving.savedText document)) around.files
        w'.files := by
  obtain ⟨hdigit, hnew⟩ := htag
  rw [← hfiles] at hnew ⊢
  have houtcome := Saving.outcome_generatorSave (request.bucket.map strip) document hdigit hnew
  simp only [hsaved] at houtcome
  exact (houtcome.saved path rfl).2

/-- **A failing run changes no file, unless it has shown a policy with errors that is to be
saved.**  Then the file for the bucket holds this policy, and every other file is what it was. -/
theorem files_of_exit_ne_zero {words : List String} {around : Surroundings} {code : Nat}
    (hexit : (run ("generate" :: words) around).ending = .exit code) (hcode : code ≠ 0) :
    ∃ request settings, Command.read ("generate" :: words) = .ok (.generate request) ∧
      Settings.load around.environment = .ok settings ∧ code = 1 ∧
      ((request.save = true → ∀ d, ¬ ShowsErrors settings d (run ("generate" :: words) around)) →
        (run ("generate" :: words) around).files = around.files) ∧
      ∀ d, request.save = true → ShowsErrors settings d (run ("generate" :: words) around) →
        HasNewTag request settings around →
          Tree.Replaces (Saving.target (generatorOf request settings).outputDir
            (request.bucket.map strip)) (Text.Utf8.encode (Saving.savedText d.document))
              around.files (run ("generate" :: words) around).files := by
  obtain ⟨request, settings, hread, hsettings⟩ := exists_request_of_exit hexit
  refine ⟨request, settings, hread, hsettings, ?_⟩
  have hcourse : Course request settings around (.fresh around.files)
      ((generate request settings around).runIn (.fresh around.files)) := course_generate _
  rw [run_eq hread hsettings] at hexit ⊢
  simp only [execute] at hexit ⊢
  revert hcourse hexit
  generalize (generate request settings around).runIn (.fresh around.files) = out
  intro hexit hcourse
  cases hcourse with
  | failed | cutShort => simp [Ending.ofResult] at hexit
  | refused hfiles hprinted =>
      obtain rfl := Ending.exit.inj hexit
      refine ⟨rfl, fun _ => hfiles, ?_⟩
      -- nothing at all has been shown
      intro d _ hshown
      have hnothing := hshown.printed.symm.trans hprinted
      simp [Workspace.fresh] at hnothing
  | misnamed hfiles hprinted =>
      obtain rfl := Ending.exit.inj hexit
      refine ⟨rfl, fun _ => hfiles, ?_⟩
      intro d _ hshown
      have hverdict := hshown.printed.symm.trans hprinted
      exact absurd hverdict (render_document_ne d _ _)
  | shown _ _ hsave hfiles hprinted =>
      obtain rfl := Ending.exit.inj hexit
      refine ⟨(reviewCode_ne_zero hcode).1, fun _ => hfiles, ?_⟩
      intro d hasked
      simp [hsave] at hasked
  | @saved d w₁ w' result _ _ hsave hfiles hprinted hresult =>
      cases result with
      | error failure => simp [Ending.ofResult, Except.map] at hexit
      | ok path =>
          obtain rfl := Ending.exit.inj hexit
          obtain ⟨hone, hinvalid, hlines⟩ := reviewCode_ne_zero hcode
          have hlast : w'.printed = d.document.render Json.indented ::
              shownTexts (verdictLines "Policy" (Policy.review settings.inside d.document)) := by
            rw [(runIn_save hresult).2.2, hprinted, hlines]
            rfl
          refine ⟨hone, fun hnone => absurd ⟨hinvalid, hlast⟩ (hnone hsave d), ?_⟩
          intro other _ hshown htag
          have hsame : other.document.render Json.indented = d.document.render Json.indented :=
            (List.cons.inj (hshown.printed.symm.trans hlast)).1
          rw [savedText_of_render hsame]
          exact replaces_of_save hfiles htag hresult

/-! ### A path with two slashes -/

/-- Words that ask for a policy on a path that starts with a slash, for its review, and for saving
it. -/
def slashWords : List String :=
  ["--bucket", "abc", "--action", "s3:GetObject", "--resource-path", "/x", "--validate", "--save"]

/-- The policy that is made. -/
def slashDraft : Draft :=
  ⟨"GeneratedPolicy01", some "Allow", [.named "s3:GetObject"], ["arn:aws:s3:::abc//x"], none⟩

/-- What the run leaves: an exit code, the policy with the verdict on it, and a new file. -/
theorem run_slash :
    (run ("generate" :: slashWords) bareSurroundings).ending.code? = some 1 ∧
      (run ("generate" :: slashWords) bareSurroundings).printed =
        slashDraft.document.render Json.indented ::
          shownTexts (verdictLines "Policy" (Policy.review false slashDraft.document)) ∧
      ((run ("generate" :: slashWords) bareSurroundings).files.fileAt?
        ["policies".toList, "abc-policy.json".toList]).isSome = true := by
  decide +kernel

theorem exit_one_slash : (run ("generate" :: slashWords) bareSurroundings).ending = .exit 1 :=
  Ending.eq_exit_iff.2 run_slash.1

/-- The policy is in its file, and that is all that has changed. -/
theorem replaces_slash :
    (run ("generate" :: slashWords) bareSurroundings).ending = .exit 1 ∧ 1 ≠ 0 ∧
      Tree.Replaces (Saving.target (.ofText "policies".toList) (some "abc"))
        (Text.Utf8.encode (Saving.savedText slashDraft.document)) bareSurroundings.files
          (run ("generate" :: slashWords) bareSurroundings).files := by
  obtain ⟨request, settings, hread, hsettings, -, -, hsaved⟩ :=
    files_of_exit_ne_zero exit_one_slash (by decide)
  have hwords : Command.read ("generate" :: slashWords) = .ok (.generate ⟨some "abc", none,
      [.named "s3:GetObject"], none, some "/x", none, none, true, true, none⟩) := by
    decide +kernel
  have hdefaults : Settings.load bareSurroundings.environment =
      .ok ⟨"GeneratedPolicy", .ofText "policies".toList, .info, false⟩ := by rfl
  obtain rfl := Command.generate.inj (Except.ok.inj (hread.symm.trans hwords))
  obtain rfl := Except.ok.inj (hsettings.symm.trans hdefaults)
  have hshown : ShowsErrors ⟨"GeneratedPolicy", .ofText "policies".toList, .info, false⟩ slashDraft
      (run ("generate" :: slashWords) bareSurroundings) :=
    ⟨by decide +kernel, run_slash.2.1⟩
  exact ⟨exit_one_slash, by decide, hsaved slashDraft rfl hshown ⟨by decide, by decide +kernel⟩⟩

/-- So a run with the exit code one has left a new file behind. -/
theorem not_files_kept_slash :
    (run ("generate" :: slashWords) bareSurroundings).ending = .exit 1 ∧
      ¬ ∀ place, (run ("generate" :: slashWords) bareSurroundings).files.fileAt? place =
        bareSurroundings.files.fileAt? place := by
  refine ⟨exit_one_slash, fun hkept => ?_⟩
  have hnew := run_slash.2.2
  rw [hkept] at hnew
  revert hnew
  decide

end BucketAccess.CommandLine
