/-
**Validating what was generated.**

A run that generates a policy, finds it valid and saves it is followed by a run that validates the
file.  The second run reads the document that the first one has reviewed, so it comes to the same
verdict, with one exception: a number in the condition may be beyond all bounds and have become
infinite while the condition was read.  The first run takes no notice of it, and saves a word in its
place that the second one refuses.

Main definitions:

* `BucketAccess.CommandLine.Blessed` — what is left of a run that has generated, reviewed and saved
  a policy without errors.

Main results:

* `BucketAccess.CommandLine.read_validate_of_head`,
  `BucketAccess.CommandLine.exists_word_of_target` — a command line that validates a file, and a
  word for every saved policy;
* `BucketAccess.CommandLine.blessed_of_course` — **what the first run leaves**;
* `BucketAccess.CommandLine.validate_saved_iff` — **a saved policy is accepted exactly when its
  condition holds no infinite number**.
-/

import BucketAccess.Proofs.CommandLine.Generating
import BucketAccess.Proofs.CommandLine.Options
import BucketAccess.Proofs.Files.Path

set_option relaxedAutoImplicit false
set_option autoImplicit false

namespace BucketAccess.CommandLine

open BucketAccess.Files (Path)
open BucketAccess.Json (Value)
open BucketAccess.Policy (Draft)
open BucketAccess.Text (strip)

/-! ### Command lines -/

/-- A word that does not start with a hyphen can be validated as a file. -/
theorem read_validate_of_head {file : String} (h : file.toList.head? ≠ some '-') :
    Command.read ["validate", file] = .ok (.validate file false false) := by
  have hseparator : file ≠ "--" := by
    rintro rfl
    exact h (by decide)
  have hwords : classifyAll Verb.validate.grammar.switches [file] = .ok [.operand file] := by
    rw [classifyAll, if_neg hseparator, classify_of_head h]
    rfl
  have harguments : Verb.validate.grammar.read [file] = .ok ⟨some file, [], [], []⟩ := by
    rw [Grammar.read, hwords]
    rfl
  have hread := read_name .validate [file]
  rw [harguments] at hread
  exact hread

/-! ### Files of policies -/

/-- The file of a policy is not the word for the standard input. -/
theorem ne_inputWord_of_target {file : String} {directory : Path} {bucket : Option String}
    (h : Path.ofText file.toList = Saving.target directory bucket) : file ≠ inputWord := by
  rintro rfl
  obtain ⟨field, hfield, hending⟩ := Text.exists_mem_splitOn_append
    (by decide : '/' ∉ "-policy.json".toList)
    (if (strip (bucket.getD "")).isEmpty then Saving.namelessBucket
      else strip (bucket.getD "")).toList
  have hlength : 12 ≤ field.length := by
    have := hending.length_le
    simpa using this
  have hname : field ∈ (Path.ofText (Saving.fileName bucket).toList).names := by
    rw [Path.ofText, List.mem_filter, Saving.fileName, String.toList_append]
    refine ⟨hfield, ?_⟩
    simp only [decide_eq_true_eq]
    constructor <;> rintro rfl <;> simp [Path.self] at hlength
  have htarget : field ∈ (Saving.target directory bucket).names := by
    unfold Saving.target Path.join
    split
    · exact List.mem_append_right _ hname
    · exact hname
  have hinput : (Path.ofText inputWord.toList).names = [['-']] := by decide
  rw [← h, hinput, List.mem_singleton] at htarget
  simp [htarget] at hlength

/-- Directories for saved policies are read from texts. -/
theorem proper_chosenDir {environment : Settings.Variables} {settings : Settings}
    (h : Settings.load environment = .ok settings) (given : Option String) :
    (Generator.chosenDir given settings.outputDir).Proper := by
  have hdefault : settings.outputDir.Proper := by
    unfold Settings.load at h
    split at h
    · simp at h
    · simp at h
    · obtain rfl := Except.ok.inj h
      exact Path.proper_ofText _
  unfold Generator.chosenDir
  split
  · exact hdefault
  · split
    · exact hdefault
    · exact Path.proper_ofText _

/-- **Every saved policy can be named on a command line**, whatever its path starts with. -/
theorem exists_word_of_target {environment : Settings.Variables} {settings : Settings}
    (h : Settings.load environment = .ok settings) (given bucket : Option String) :
    ∃ file, Command.read ["validate", file] = .ok (.validate file false false) ∧
      Path.ofText file.toList =
        Saving.target (Generator.chosenDir given settings.outputDir) bucket := by
  have hproper : (Saving.target (Generator.chosenDir given settings.outputDir) bucket).Proper :=
    (proper_chosenDir h given).join (Path.proper_ofText _)
  obtain ⟨s, hpath, hhyphen⟩ := Path.exists_text_not_hyphen hproper
  refine ⟨String.ofList s, read_validate_of_head ?_, ?_⟩
  · rwa [String.toList_ofList]
  · rwa [String.toList_ofList]

/-! ### Runs -/

/-- The exit code of a run that ends with one. -/
def Ending.code? : Ending → Option Nat
  | .exit code => some code
  | _ => none

theorem Ending.eq_exit_iff {e : Ending} {code : Nat} : e = .exit code ↔ e.code? = some code := by
  cases e <;> simp [Ending.code?]

/-- A run does what its words ask for. -/
theorem run_eq {words : List String} {around : Surroundings} {command : Command}
    {settings : Settings} (hread : Command.read words = .ok command)
    (hsettings : Settings.load around.environment = .ok settings) :
    run words around =
      let (result, w) := (execute settings around command).runIn (.fresh around.files)
      ⟨.ofResult result, w.printed, Log.shown settings.logLevel w.log, w.files⟩ := by
  simp only [run, runFrom, hread, hsettings]
  rfl

/-- Validating a saved policy. -/
theorem run_validate {file : String} {later : Surroundings} {settings : Settings}
    {document : Value} (hword : Command.read ["validate", file] = .ok (.validate file false false))
    (hinput : file ≠ inputWord) (hsettings : Settings.load later.environment = .ok settings)
    (hwf : document.WellFormed) (hdepth : document.depth ≤ later.nesting)
    (hsaved : later.files.read (.ofText file.toList) =
      .ok (Text.Utf8.encode (Saving.savedText document))) :
    ((run ["validate", file] later).ending, (run ["validate", file] later).printed) =
      if document.excluded? = none then
        (.ofResult ((printEnding
            (verdictLines "Policy" (Policy.review settings.inside document))).map fun _ =>
              exitCode (Policy.review settings.inside document)),
          shownTexts (verdictLines "Policy" (Policy.review settings.inside document)))
      else (.exit 1, []) := by
  have htext : (validatedText file later).runIn (.fresh later.files) =
      (.ok (String.ofList (Saving.savedText document)), .fresh later.files) :=
    runIn_validatedText hinput hwf hsaved
  have hparsed := Saving.read_savedText hwf hdepth
  rw [run_eq hword hsettings]
  simp only [execute, validate, Bool.false_or]
  rw [Work.runIn_bind_of_ok htext]
  cases hexcluded : document.excluded? with
  | none =>
      rw [hexcluded] at hparsed
      obtain ⟨log, hreview⟩ := runIn_reviewText_of_ok settings.inside hparsed (.fresh later.files)
      rw [hreview, if_pos rfl]
      rfl
  | some word =>
      rw [hexcluded] at hparsed
      rw [runIn_reviewText_of_excluded settings.inside hparsed, if_neg (by simp)]
      rfl

/-- What is left of a run that has generated, reviewed and saved a policy without errors. -/
structure Blessed (limit : Nat) (request : GenerateRequest) (settings : Settings) (d : Draft)
    (w w' : Workspace) : Prop where
  /-- The condition is the one that was typed. -/
  condition : Draft.conditionOf limit request.condition = .ok d.condition
  /-- The review has found no errors. -/
  valid : (Policy.review settings.inside d.document).isValid = true
  /-- The policy and the verdict on it have been printed. -/
  printed : w'.printed = w.printed ++ d.document.render Json.indented ::
    shownTexts (verdictLines "Policy" (Policy.review settings.inside d.document))
  /-- The verdict has been printed to the end. -/
  printable : firstHalves? (verdictLines "Policy" (Policy.review settings.inside d.document)) = none
  /-- The policy is in its file. -/
  saved : w'.files.read (Saving.target (Generator.chosenDir request.outputDir settings.outputDir)
    (request.bucket.map strip)) = .ok (Text.Utf8.encode (Saving.savedText d.document))

namespace Blessed

variable {limit : Nat} {request : GenerateRequest} {settings : Settings} {d : Draft}
  {w w' : Workspace}

/-- The condition of the policy is the one that was typed. -/
theorem condition_eq_some_iff (h : Blessed limit request settings d w w') (c : Value) :
    d.condition = some c ↔ Draft.conditionOf limit request.condition = .ok (some c) := by
  rw [h.condition, Except.ok.injEq]

theorem wellFormed (h : Blessed limit request settings d w w') : d.document.WellFormed := by
  refine Draft.wellFormed_document ?_
  intro c hc
  exact Draft.wellFormed_condition ((h.condition_eq_some_iff c).1 hc)

theorem depth_le (h : Blessed limit request settings d w w')
    {n : Nat} (hn : 5 ≤ n) (hdepth : ∀ c, Draft.conditionOf limit request.condition = .ok (some c) →
      c.depth + 3 ≤ n) : d.document.depth ≤ n := by
  refine Draft.depth_document_le hn ?_
  intro c hc
  exact hdepth c ((h.condition_eq_some_iff c).1 hc)

/-- The policy holds no infinite number when the condition that was typed holds none. -/
theorem excluded?_eq_none_iff (h : Blessed limit request settings d w w') :
    d.document.excluded? = none ↔
      ∀ c, Draft.conditionOf limit request.condition = .ok (some c) → c.excluded? = none := by
  simp only [Draft.excluded?_document, ← h.condition_eq_some_iff]
  cases d.condition <;> simp

end Blessed

/-- **What generating, reviewing and saving a policy leaves** if the exit code is zero. -/
theorem blessed_of_course {request : GenerateRequest} {settings : Settings}
    {around : Surroundings} {w w' : Workspace} {out : Except Failure Nat × Workspace}
    (hvalidate : request.validate = true) (hsave : request.save = true)
    (h : Course request settings around w out) (hout : out = (.ok 0, w')) :
    ∃ d, Blessed around.nesting request settings d w w' := by
  cases h with
  | failed | refused | misnamed | cutShort => simp at hout
  | shown _ _ hunsaved => simp [hsave] at hunsaved
  | @saved d w₁ w₂ result hcondition hlines _ _ hprinted hresult =>
      cases result with
      | error failure => simp [Except.map] at hout
      | ok path =>
          obtain ⟨hcode, rfl⟩ := Prod.mk.inj hout
          have hzero := Except.ok.inj hcode
          simp only [hvalidate, reviewCode, if_true] at hzero
          simp only [hvalidate, reviewLines, if_true] at hprinted hlines
          obtain ⟨hpath, hread, hquiet⟩ := runIn_save hresult
          refine ⟨d, hcondition, exitCode_eq_zero_iff.1 hzero, hquiet.trans hprinted, hlines, ?_⟩
          rw [← hread, hpath]
          rfl

/-- What is left of a run that generates, reviews and saves a policy and ends with exit code
zero. -/
theorem blessed_of_exit_zero {words : List String} {around : Surroundings}
    {request : GenerateRequest} {settings : Settings}
    (hread : Command.read words = .ok (.generate request)) (hvalidate : request.validate = true)
    (hsave : request.save = true) (hsettings : Settings.load around.environment = .ok settings)
    (hexit : (run words around).ending = .exit 0) :
    ∃ d w, Blessed around.nesting request settings d (.fresh around.files) w ∧
      (run words around).printed = w.printed ∧ (run words around).files = w.files := by
  rw [run_eq hread hsettings] at hexit ⊢
  rcases hwork : (execute settings around (.generate request)).runIn (.fresh around.files) with
    ⟨failure | code, w⟩
  · simp [hwork, Ending.ofResult] at hexit
  · obtain rfl : code = 0 := by simpa [hwork, Ending.ofResult] using hexit
    obtain ⟨d, hblessed⟩ := blessed_of_course hvalidate hsave (course_generate _) hwork
    exact ⟨d, w, hblessed, rfl, rfl⟩

/-- **A saved policy is accepted exactly when its condition holds no infinite number**, and then the
second run prints the verdict of the first one.  The file may be named by any word that leads to it
and is not taken for a switch, and nothing else has written to it in between.  The policy is not
nested too deep for the second run. -/
theorem validate_saved_iff {words : List String} {around later : Surroundings}
    {request : GenerateRequest} {settings : Settings} {file : String}
    (hread : Command.read words = .ok (.generate request)) (hvalidate : request.validate = true)
    (hsave : request.save = true) (hsettings : Settings.load around.environment = .ok settings)
    (hexit : (run words around).ending = .exit 0)
    (hnesting : 5 ≤ later.nesting)
    (hdepth : ∀ c, Draft.conditionOf around.nesting request.condition = .ok (some c) →
      c.depth + 3 ≤ later.nesting)
    (hword : Command.read ["validate", file] = .ok (.validate file false false))
    (hfile : Path.ofText file.toList = Saving.target
      (Generator.chosenDir request.outputDir settings.outputDir) (request.bucket.map strip))
    (henvironment : later.environment = around.environment)
    (hkept : later.files.read (.ofText file.toList) =
      (run words around).files.read (.ofText file.toList)) :
    ((run ["validate", file] later).ending = .exit 0 ∧
      ∃ document, (run words around).printed =
        document :: (run ["validate", file] later).printed) ↔
      ∀ c, Draft.conditionOf around.nesting request.condition = .ok (some c) →
        c.excluded? = none := by
  obtain ⟨d, w, hblessed, hprinted, hfiles⟩ :=
    blessed_of_exit_zero hread hvalidate hsave hsettings hexit
  have hsaved : later.files.read (.ofText file.toList) =
      .ok (Text.Utf8.encode (Saving.savedText d.document)) := by
    rw [hkept, hfiles, hfile]
    exact hblessed.saved
  have hsecond := run_validate hword (ne_inputWord_of_target hfile)
    (henvironment ▸ hsettings) hblessed.wellFormed (hblessed.depth_le hnesting hdepth) hsaved
  rw [← hblessed.excluded?_eq_none_iff, hprinted]
  constructor
  · rintro ⟨hzero, -⟩
    by_contra hsome
    rw [if_neg hsome] at hsecond
    have hone := (Prod.mk.inj hsecond).1
    simp [hzero] at hone
  · intro hnone
    rw [if_pos hnone] at hsecond
    obtain ⟨hending, hlines⟩ := Prod.mk.inj hsecond
    have hvalid := exitCode_eq_zero_iff.2 hblessed.valid
    rw [printEnding, hblessed.printable] at hending
    refine ⟨by rw [hending, Except.map, hvalid, Ending.ofResult],
      d.document.render Json.indented, ?_⟩
    rw [hlines]
    exact hblessed.printed

/-! ### A number beyond all bounds -/

/-- A condition with a number beyond all bounds. -/
def boundlessCondition : String :=
  "\x7b\"NumericEquals\": \x7b\"x\": 1e400\x7d\x7d"

/-- A command line that generates, reviews and saves a policy under this condition. -/
def boundlessWords : List String :=
  ["generate", "--bucket", "abc", "--action", "s3:GetObject", "--condition", boundlessCondition,
    "--validate", "--save"]

/-- Surroundings with neither files nor settings. -/
def bareSurroundings : Surroundings :=
  ⟨[], ⟨[], []⟩, [], .finite false 0, 990, "1"⟩

/-- The surroundings that this run leaves. -/
def boundlessSurroundings : Surroundings :=
  { bareSurroundings with files := (run boundlessWords bareSurroundings).files }

/-- Surroundings with other files have these files; for files that a run leaves, the run need not be
known. -/
theorem Surroundings.files_update (around : Surroundings) (files : Files.Tree) :
    { around with files := files : Surroundings }.files = files := rfl

/-- The condition is read, and its number has become infinite. -/
theorem conditionOf_boundless :
    ∃ c, Draft.conditionOf 990 (some boundlessCondition) = .ok (some c) ∧ c.depth = 2 ∧
      c.excluded? = some "Infinity" := by
  have h : ((Draft.conditionOf 990 (some boundlessCondition)).toOption.join.map fun c =>
      (c.depth, c.excluded?)) = some (2, some "Infinity") := by
    decide +kernel
  obtain ⟨c, hc, hfacts⟩ := Option.map_eq_some_iff.1 h
  refine ⟨c, ?_, Prod.mk.inj hfacts⟩
  cases hread : Draft.conditionOf 990 (some boundlessCondition) with
  | error failure => simp [hread, Except.toOption] at hc
  | ok condition => simpa [hread, Except.toOption] using hc

/-- The first run finds the policy valid and saves it. -/
theorem exit_zero_boundless : (run boundlessWords bareSurroundings).ending = .exit 0 :=
  Ending.eq_exit_iff.2 (by decide +kernel)

/-- The second run does not accept it. -/
theorem validate_saved_boundless :
    (run boundlessWords bareSurroundings).ending = .exit 0 ∧
      ¬((run ["validate", "policies/abc-policy.json"] boundlessSurroundings).ending = .exit 0 ∧
        ∃ document, (run boundlessWords bareSurroundings).printed = document ::
          (run ["validate", "policies/abc-policy.json"] boundlessSurroundings).printed) := by
  obtain ⟨c, hcondition, hdepth, hexcluded⟩ := conditionOf_boundless
  have hread : Command.read boundlessWords = .ok (.generate
      ⟨some "abc", none, [.named "s3:GetObject"], none, none, some boundlessCondition, none, true,
        true, none⟩) := by
    decide +kernel
  have hsettings : Settings.load bareSurroundings.environment =
      .ok ⟨"GeneratedPolicy", .ofText "policies".toList, .info, false⟩ := by rfl
  have hshallow : ∀ d, Draft.conditionOf 990 (some boundlessCondition) = .ok (some d) →
      d.depth + 3 ≤ boundlessSurroundings.nesting := by
    intro d hd
    obtain rfl : d = c := Option.some.inj (Except.ok.inj (hd.symm.trans hcondition))
    rw [hdepth]
    decide
  have hword : Command.read ["validate", "policies/abc-policy.json"] =
      .ok (.validate "policies/abc-policy.json" false false) :=
    read_validate_of_head (by decide)
  have henvironment : boundlessSurroundings.environment = bareSurroundings.environment := rfl
  have hfiles : boundlessSurroundings.files = (run boundlessWords bareSurroundings).files :=
    Surroundings.files_update _ _
  refine ⟨exit_zero_boundless, fun hsecond => ?_⟩
  have hnone := (validate_saved_iff hread rfl rfl hsettings exit_zero_boundless (by decide)
    hshallow hword
    (by decide +kernel) henvironment (by rw [hfiles])).1 hsecond c hcondition
  simp [hexcluded] at hnone

end BucketAccess.CommandLine
