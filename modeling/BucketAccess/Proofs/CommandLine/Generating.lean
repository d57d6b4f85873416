/-
**How generating a policy goes.**

Generating a policy can end in several ways.  Before a policy is made, nothing is printed but what
is wrong with the name of the bucket, and the files are left alone.  A policy that is made is
printed, and the verdict on it as well if a review is asked for; half of a character in the verdict
ends the run there.  Saving comes last, whatever the verdict is; the exit code tells about the
verdict only.

Main definitions:

* `BucketAccess.CommandLine.IsRefusal` — the failures that are told in the log;
* `BucketAccess.CommandLine.generatorOf` — the generator of a request;
* `BucketAccess.CommandLine.reviewLines`, `BucketAccess.CommandLine.reviewCode` — what is printed
  below a policy, and the exit code;
* `BucketAccess.CommandLine.Course` — the ways to generate a policy.

Main results:

* `BucketAccess.CommandLine.runIn_generateFor_of_made`,
  `BucketAccess.CommandLine.runIn_generateFor_of_halves`,
  `BucketAccess.CommandLine.runIn_generateFor_of_refusal`,
  `BucketAccess.CommandLine.runIn_generateFor_of_failure` — **what becomes of an order**;
* `BucketAccess.CommandLine.course_generate` — **there are no other ways**.
-/

import BucketAccess.Proofs.CommandLine.Steps
import BucketAccess.Proofs.Generator
import BucketAccess.Proofs.Policy.Draft

set_option relaxedAutoImplicit false
set_option autoImplicit false

namespace BucketAccess.CommandLine

open BucketAccess.Decimal (Double)
open BucketAccess.Json (Value)
open BucketAccess.Policy (Draft Order)
open BucketAccess.Text (Str strip)
open BucketAccess.Work (Keeps)

/-! ### Making a policy -/

/-- Refusals: of an order without actions, and of a condition that is no document. -/
inductive IsRefusal : Failure → Prop where
  | noActions : IsRefusal (.draft .noActions)
  | badCondition (fault : Json.Fault Json.Place) : IsRefusal (.draft (.badCondition fault))

section MakeOrLog

variable {g : Generator} {limit : Nat} {now : Double} {order : Order} {w w₁ : Workspace}

theorem runIn_makeOrLog_of_ok {d : Draft} (h : (g.make limit now order).runIn w = (.ok d, w₁)) :
    (makeOrLog g limit now order).runIn w = (.ok (some d), w₁) := by
  rw [makeOrLog, Work.runIn_tryCatch, Work.runIn_bind_of_ok h]
  rfl

/-- A refusal is told in the log, and there is no policy. -/
theorem runIn_makeOrLog_of_refusal {failure : Failure}
    (h : (g.make limit now order).runIn w = (.error failure, w₁)) (hrefusal : IsRefusal failure) :
    ∃ log, (makeOrLog g limit now order).runIn w = (.ok none, { w₁ with log := log }) := by
  rw [makeOrLog, Work.runIn_tryCatch, Work.runIn_bind, h]
  cases hrefusal with
  | noActions => exact ⟨_, rfl⟩
  | badCondition fault => exact ⟨_, rfl⟩

/-- Every other failure is passed on. -/
theorem runIn_makeOrLog_of_failure {failure : Failure}
    (h : (g.make limit now order).runIn w = (.error failure, w₁)) (hfailure : ¬ IsRefusal failure) :
    (makeOrLog g limit now order).runIn w = (.error failure, w₁) := by
  rw [makeOrLog, Work.runIn_tryCatch, Work.runIn_bind, h]
  cases failure with
  | draft refusal =>
      cases refusal with
      | noActions => exact absurd .noActions hfailure
      | badCondition fault => exact absurd (.badCondition fault) hfailure
      | blankAction | deepCondition => rfl
  | _ => rfl

end MakeOrLog

/-! ### Showing it -/

/-- What is printed below a policy: the verdict on it, if a review is asked for. -/
def reviewLines (asked inside : Bool) (document : Value) : List Str :=
  if asked then verdictLines "Policy" (Policy.review inside document) else []

/-- The exit code behind a policy: without a review there is nothing to complain of. -/
def reviewCode (asked inside : Bool) (document : Value) : Nat :=
  if asked then exitCode (Policy.review inside document) else 0

/-- A review that is asked for or not prints its lines as far as it can, and gives its code. -/
theorem runIn_reviewMade (g : Generator) (asked : Bool) (document : Value) (w : Workspace) :
    ∃ log, (reviewMade g asked document).runIn w =
      ((printEnding (reviewLines asked g.inside document)).map fun _ =>
          reviewCode asked g.inside document,
        { w with
          log := log
          printed := w.printed ++ shownTexts (reviewLines asked g.inside document) }) := by
  cases asked with
  | false =>
      exact ⟨w.log, by simp [reviewMade, reviewCode, reviewLines, shownTexts, printEnding,
        firstHalves?, Except.map]⟩
  | true =>
      obtain ⟨log, hreview⟩ : ∃ log, (g.review document).runIn w =
          (.ok (Policy.review g.inside document), { w with log := log }) :=
        runIn_reviewDocument g.inside document w
      unfold reviewMade
      simp only [Bool.not_true, Bool.false_eq_true, if_false, reviewCode, reviewLines, if_true,
        exitCode]
      rw [Work.runIn_bind_of_ok hreview, Work.runIn_bind, runIn_printVerdict]
      cases printEnding (verdictLines "Policy" (Policy.review g.inside document)) with
      | error failure => exact ⟨log, rfl⟩
      | ok done =>
          by_cases hvalid : (Policy.review g.inside document).isValid = true
          · simp only [if_pos hvalid]
            exact ⟨log, rfl⟩
          · simp only [if_neg hvalid]
            rw [Work.runIn_bind_of_ok (Work.runIn_record _ _ _)]
            exact ⟨_, rfl⟩

/-! ### What becomes of an order -/

/-- The generator of a request. -/
def generatorOf (request : GenerateRequest) (settings : Settings) : Generator :=
  ⟨settings.sidLead, Generator.chosenDir request.outputDir settings.outputDir, settings.inside⟩

/-- Saving a policy if that is asked for, which does not change the exit code. -/
def saveMade (request : GenerateRequest) (settings : Settings) (around : Surroundings)
    (bucket : String) (document : Value) (code : Nat) : Work Nat :=
  if request.save then do
    let _ ← (generatorOf request settings).save around.tag document (some bucket)
    return code
  else return code

section Order

variable {bucket : String} {request : GenerateRequest} {settings : Settings}
  {around : Surroundings} {start : Start} {order : Order} {w w₁ w₂ : Workspace}
  (hstart : startOf request.preset = some start)
  (horder : (orderOf bucket request start).runIn w = (.ok order, w₁))

include hstart horder

theorem runIn_generateFor_eq : (generateFor bucket request settings around).runIn w =
    (do
      match ← makeOrLog (generatorOf request settings) around.nesting around.now order with
      | none => return 1
      | some draft =>
          printDocument draft.document
          let code ← reviewMade (generatorOf request settings) request.validate draft.document
          saveMade request settings around bucket draft.document code : Work Nat).runIn w₁ := by
  unfold generateFor
  rw [hstart]
  simp only
  rw [Work.runIn_bind_of_ok horder]
  unfold saveMade generatorOf
  cases request.save <;> rfl

/-- A policy that is made is printed, and then the verdict on it as far as it can be. -/
theorem exists_runIn_generateFor_of_made {d : Draft}
    (hmake : ((generatorOf request settings).make around.nesting around.now order).runIn w₁ =
      (.ok d, w₂)) :
    ∃ log, (generateFor bucket request settings around).runIn w =
      match printEnding (reviewLines request.validate settings.inside d.document) with
      | .ok () => (saveMade request settings around bucket d.document
          (reviewCode request.validate settings.inside d.document)).runIn
            { w₂ with
              log := log
              printed := w₂.printed ++ d.document.render Json.indented ::
                shownTexts (reviewLines request.validate settings.inside d.document) }
      | .error failure => (.error failure,
          { w₂ with
            log := log
            printed := w₂.printed ++ d.document.render Json.indented ::
              shownTexts (reviewLines request.validate settings.inside d.document) }) := by
  obtain ⟨log, hreview⟩ := runIn_reviewMade (generatorOf request settings) request.validate
    d.document { w₂ with printed := w₂.printed ++ [d.document.render Json.indented] }
  refine ⟨log, ?_⟩
  rw [runIn_generateFor_eq hstart horder, Work.runIn_bind_of_ok (runIn_makeOrLog_of_ok hmake)]
  simp only
  rw [Work.runIn_bind_of_ok (runIn_printDocument _ _), Work.runIn_bind, hreview]
  have hinside : (generatorOf request settings).inside = settings.inside := rfl
  rw [hinside, List.append_assoc, List.singleton_append]
  cases printEnding (reviewLines request.validate settings.inside d.document) <;> rfl

/-- **A policy that is made is printed and reviewed**, and then it may be saved. -/
theorem runIn_generateFor_of_made {d : Draft}
    (hmake : ((generatorOf request settings).make around.nesting around.now order).runIn w₁ =
      (.ok d, w₂))
    (hlines : firstHalves? (reviewLines request.validate settings.inside d.document) = none) :
    ∃ log, (generateFor bucket request settings around).runIn w =
      (saveMade request settings around bucket d.document
        (reviewCode request.validate settings.inside d.document)).runIn
          { w₂ with
            log := log
            printed := w₂.printed ++ d.document.render Json.indented ::
              shownTexts (reviewLines request.validate settings.inside d.document) } := by
  obtain ⟨log, hrun⟩ := exists_runIn_generateFor_of_made hstart horder hmake
  rw [printEnding, hlines] at hrun
  exact ⟨log, hrun⟩

/-- **Half of a character in the verdict** ends the run behind the policy, and nothing is saved. -/
theorem runIn_generateFor_of_halves {d : Draft} {halves : Str.Halves}
    (hmake : ((generatorOf request settings).make around.nesting around.now order).runIn w₁ =
      (.ok d, w₂))
    (hlines : firstHalves? (reviewLines request.validate settings.inside d.document) =
      some halves) :
    ∃ log, (generateFor bucket request settings around).runIn w =
      (.error (.unprintable halves),
        { w₂ with
          log := log
          printed := w₂.printed ++ d.document.render Json.indented ::
            shownTexts (reviewLines request.validate settings.inside d.document) }) := by
  obtain ⟨log, hrun⟩ := exists_runIn_generateFor_of_made hstart horder hmake
  rw [printEnding, hlines] at hrun
  exact ⟨log, hrun⟩

/-- **An order that is refused** gives the exit code one, and nothing is printed. -/
theorem runIn_generateFor_of_refusal {failure : Failure}
    (hmake : ((generatorOf request settings).make around.nesting around.now order).runIn w₁ =
      (.error failure, w₂)) (hrefusal : IsRefusal failure) :
    ∃ log, (generateFor bucket request settings around).runIn w =
      (.ok 1, { w₂ with log := log }) := by
  obtain ⟨log, hnone⟩ := runIn_makeOrLog_of_refusal hmake hrefusal
  refine ⟨log, ?_⟩
  rw [runIn_generateFor_eq hstart horder, Work.runIn_bind_of_ok hnone]
  rfl

/-- **Any other failure** is passed on. -/
theorem runIn_generateFor_of_failure {failure : Failure}
    (hmake : ((generatorOf request settings).make around.nesting around.now order).runIn w₁ =
      (.error failure, w₂)) (hfailure : ¬ IsRefusal failure) :
    (generateFor bucket request settings around).runIn w = (.error failure, w₂) := by
  rw [runIn_generateFor_eq hstart horder, Work.runIn_bind,
    runIn_makeOrLog_of_failure hmake hfailure]

end Order

/-! ### The whole way -/

/-- **The ways to generate a policy**, with what each of them prints and does to the files. -/
inductive Course (request : GenerateRequest) (settings : Settings) (around : Surroundings)
    (w : Workspace) : Except Failure Nat × Workspace → Prop where
  /-- Something goes wrong that nobody takes care of. -/
  | failed {failure : Failure} {w' : Workspace} (hfiles : w'.files = w.files)
      (hprinted : w'.printed = w.printed) : Course request settings around w (.error failure, w')
  /-- There is no policy, and the log says why. -/
  | refused {w' : Workspace} (hfiles : w'.files = w.files) (hprinted : w'.printed = w.printed) :
      Course request settings around w (.ok 1, w')
  /-- The name of the bucket is no name. -/
  | misnamed {v : Verdict String} {w' : Workspace} (hfiles : w'.files = w.files)
      (hprinted : w'.printed =
        w.printed ++ shownTexts (verdictLines "Bucket name" (v.map Str.ofString))) :
      Course request settings around w (.ok 1, w')
  /-- A policy is made, and the verdict on it cannot be printed to the end. -/
  | cutShort {d : Draft} {halves : Str.Halves} {w' : Workspace}
      (hlines : firstHalves? (reviewLines request.validate settings.inside d.document) =
        some halves)
      (hfiles : w'.files = w.files)
      (hprinted : w'.printed = w.printed ++ d.document.render Json.indented ::
        shownTexts (reviewLines request.validate settings.inside d.document)) :
      Course request settings around w (.error (.unprintable halves), w')
  /-- A policy is made, and it is not to be saved. -/
  | shown {d : Draft} {w' : Workspace}
      (hcondition : Draft.conditionOf around.nesting request.condition = .ok d.condition)
      (hlines : firstHalves? (reviewLines request.validate settings.inside d.document) = none)
      (hsave : request.save = false) (hfiles : w'.files = w.files)
      (hprinted : w'.printed = w.printed ++ d.document.render Json.indented ::
        shownTexts (reviewLines request.validate settings.inside d.document)) :
      Course request settings around w
        (.ok (reviewCode request.validate settings.inside d.document), w')
  /-- A policy is made and goes on to be saved. -/
  | saved {d : Draft} {w₁ w' : Workspace} {result : Except Failure Files.Path}
      (hcondition : Draft.conditionOf around.nesting request.condition = .ok d.condition)
      (hlines : firstHalves? (reviewLines request.validate settings.inside d.document) = none)
      (hsave : request.save = true) (hfiles : w₁.files = w.files)
      (hprinted : w₁.printed = w.printed ++ d.document.render Json.indented ::
        shownTexts (reviewLines request.validate settings.inside d.document))
      (hresult : ((generatorOf request settings).save around.tag d.document
        (request.bucket.map strip)).runIn w₁ = (result, w')) :
      Course request settings around w
        (result.map fun _ => reviewCode request.validate settings.inside d.document, w')

section Course

variable {request : GenerateRequest} {settings : Settings} {around : Surroundings}

/-- Asking for an order changes nothing. -/
theorem keeps_orderOf (bucket : String) (request : GenerateRequest) (start : Start) :
    Keeps (fun w => w) (orderOf bucket request start) := by
  refine .bind ?_ fun _ => .pure _
  cases request.actionsFile with
  | none => exact .pure _
  | some file =>
      exact .bind (.bind (.askFiles _) fun _ => .bind (.ofExcept _ _) fun _ => .pure _)
        fun _ => .pure _

/-- The order of a request has the condition of the request. -/
theorem condition_of_orderOf {bucket : String} {request : GenerateRequest} {start : Start}
    {order : Order} {w w' : Workspace}
    (h : (orderOf bucket request start).runIn w = (.ok order, w')) :
    order.condition = request.condition := by
  obtain ⟨typed, w₁, -, hpure⟩ := Work.runIn_bind_ok_iff.1 h
  rw [← Except.ok.inj (Prod.mk.inj hpure).1]

/-- A policy that is made is shown, and perhaps it is saved. -/
theorem course_saveMade {typed : String} (hbucket : request.bucket = some typed) {d : Draft}
    {w w₁ : Workspace}
    (hcondition : Draft.conditionOf around.nesting request.condition = .ok d.condition)
    (hlines : firstHalves? (reviewLines request.validate settings.inside d.document) = none)
    (hfiles : w₁.files = w.files)
    (hprinted : w₁.printed = w.printed ++ d.document.render Json.indented ::
      shownTexts (reviewLines request.validate settings.inside d.document)) :
    Course request settings around w ((saveMade request settings around (strip typed) d.document
      (reviewCode request.validate settings.inside d.document)).runIn w₁) := by
  unfold saveMade
  cases hsave : request.save with
  | false =>
      exact .shown hcondition hlines hsave hfiles hprinted
  | true =>
      have hname : some (strip typed) = request.bucket.map strip := by rw [hbucket, Option.map_some]
      simp only [if_true]
      rw [Work.runIn_bind, hname]
      rcases hresult : ((generatorOf request settings).save around.tag d.document
        (request.bucket.map strip)).runIn w₁ with ⟨failure | path, w'⟩
      · exact .saved hcondition hlines hsave hfiles hprinted hresult
      · exact .saved hcondition hlines hsave hfiles hprinted hresult

/-- An order becomes a policy, or the run ends before anything is printed. -/
theorem course_of_order {typed : String} (hbucket : request.bucket = some typed) {start : Start}
    {order : Order} {w : Workspace} (hstart : startOf request.preset = some start)
    (horder : (orderOf (strip typed) request start).runIn w = (.ok order, w)) :
    Course request settings around w
      ((generateFor (strip typed) request settings around).runIn w) := by
  have hfiles := Generator.files_make (generatorOf request settings) around.nesting
    around.now order w
  have hprinted := Generator.printed_make (generatorOf request settings) around.nesting
    around.now order w
  rcases hmake : ((generatorOf request settings).make around.nesting around.now order).runIn w with
    ⟨failure | d, w₁⟩ <;> rw [hmake] at hfiles hprinted
  · by_cases hrefusal : IsRefusal failure
    · obtain ⟨log, hrun⟩ := runIn_generateFor_of_refusal hstart horder hmake hrefusal
      rw [hrun]
      exact .refused hfiles hprinted
    · rw [runIn_generateFor_of_failure hstart horder hmake hrefusal]
      exact .failed hfiles hprinted
  · cases hlines : firstHalves? (reviewLines request.validate settings.inside d.document) with
    | some halves =>
        obtain ⟨log, hrun⟩ := runIn_generateFor_of_halves hstart horder hmake hlines
        rw [hrun]
        exact .cutShort hlines hfiles (by rw [← hprinted])
    | none =>
        obtain ⟨log, hrun⟩ := runIn_generateFor_of_made hstart horder hmake hlines
        obtain ⟨millis, -, hofOrder⟩ := Generator.exists_ofOrder_of_make hmake
        have hcondition := Draft.conditionOf_of_ofOrder hofOrder
        rw [condition_of_orderOf horder] at hcondition
        rw [hrun]
        exact course_saveMade hbucket hcondition hlines hfiles (by rw [← hprinted])

/-- Without an order the run ends as well before anything is printed. -/
theorem course_generateFor {typed : String} (hbucket : request.bucket = some typed)
    (w : Workspace) : Course request settings around w
      ((generateFor (strip typed) request settings around).runIn w) := by
  cases hstart : startOf request.preset with
  | none =>
      unfold generateFor
      rw [hstart]
      exact .refused rfl rfl
  | some start =>
      have hkeeps : ((orderOf (strip typed) request start).runIn w).2 = w :=
        keeps_orderOf (strip typed) request start w
      rcases horder : (orderOf (strip typed) request start).runIn w with ⟨failure | order, w₁⟩ <;>
        rw [horder] at hkeeps
      · have hrun : (generateFor (strip typed) request settings around).runIn w =
            (.error failure, w₁) := by
          unfold generateFor
          rw [hstart]
          simp only
          rw [Work.runIn_bind, horder]
        rw [hrun]
        exact .failed (congrArg Workspace.files hkeeps) (congrArg Workspace.printed hkeeps)
      · obtain rfl : w₁ = w := hkeeps
        exact course_of_order hbucket hstart horder

/-- **There are no other ways to generate a policy.** -/
theorem course_generate (w : Workspace) :
    Course request settings around w ((generate request settings around).runIn w) := by
  unfold generate
  cases hbucket : request.bucket with
  | none => exact .failed rfl rfl
  | some typed =>
      simp only
      by_cases hempty : (strip typed).isEmpty = true
      · rw [if_pos hempty]
        exact .refused rfl rfl
      · rw [if_neg hempty]
        by_cases hvalid : (Bucket.review (strip typed)).isValid = true
        · rw [if_pos hvalid]
          exact course_generateFor hbucket w
        · have hlines : firstHalves? (verdictLines "Bucket name"
              ((Bucket.review (strip typed)).map Str.ofString)) = none :=
            firstHalves?_verdictLines_eq_none_iff.2 (isPrintable_map_coe _)
          rw [if_neg hvalid, Work.runIn_bind_of_ok (Work.runIn_record _ _ _), Work.runIn_bind,
            runIn_printVerdict, printEnding, hlines]
          exact .misnamed rfl rfl

end Course

end BucketAccess.CommandLine
