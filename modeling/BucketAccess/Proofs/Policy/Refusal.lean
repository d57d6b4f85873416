/-
**How making a policy ends.**

A policy is made, or its order is refused: because there are no actions, or because the condition is
no document.  One more ending remains.  A condition that is nested too deep is not refused; the
failure of the reader is passed on as it is, and whoever is prepared for refusals is not prepared
for it.  Nothing else in an order can go wrong.  How deep is too deep is for the surroundings to
say; the endings are the same for each limit.

Main definitions:

* `BucketAccess.Policy.IsReadable` — a condition that is read;
* `BucketAccess.Policy.EndsAsTold` — **a policy, or a refusal with its reason**;
* `BucketAccess.Policy.IsDeepCondition` — a condition that is nested too deep.

Main results:

* `BucketAccess.Policy.conditionOf_eq_error_iff` — why a condition cannot be read;
* `BucketAccess.Policy.runIn_assemble_cases` — what comes out where there are actions;
* `BucketAccess.Policy.endsAsTold_iff` — **when a policy or a refusal comes out**.
-/

import BucketAccess.Proofs.Generator
import BucketAccess.Proofs.Json.Nesting

set_option relaxedAutoImplicit false
set_option autoImplicit false

namespace BucketAccess.Policy

open BucketAccess.Decimal (Double)
open BucketAccess.Text

/-! ### Endings -/

/-- Conditions that are read: blank ones, and those that are documents and are not nested too deep
for a limit. -/
def IsReadable (limit : Nat) (condition : Option String) : Prop :=
  ∀ text, condition = some text → strip text ≠ "" → ∃ v, Json.read limit text = .ok v

/-- **A policy is made, or its order is refused** for one of two reasons. -/
inductive EndsAsTold (limit : Nat) (actions : List String) (condition : Option String) :
    Except Failure Draft → Prop where
  | made {d : Draft} (hactions : actions ≠ []) (hcondition : IsReadable limit condition) :
      EndsAsTold limit actions condition (.ok d)
  | noActions (hactions : actions = []) :
      EndsAsTold limit actions condition (.error (.draft .noActions))
  | badCondition {text : String} {fault : Json.Fault Json.Place} (hactions : actions ≠ [])
      (htyped : condition = some text) (hblank : strip text ≠ "")
      (hread : Json.read limit text = .error fault) (hfault : ∀ c, fault ≠ .tooDeep c) :
      EndsAsTold limit actions condition (.error (.draft (.badCondition fault)))

/-- A condition that opens a container of a certain kind inside more others than a limit allows. -/
def IsDeepCondition (limit : Nat) (c : Json.Container) (condition : Option String) : Prop :=
  ∃ text, condition = some text ∧ Json.OpensTooDeep limit c text.toList

/-! ### Conditions -/

/-- A character that is not blank is left where blanks are trimmed. -/
theorem strip_ne_empty_of_mem {text : String} {c : Char} (hmem : c ∈ text.toList)
    (hc : isBlank c = false) : strip text ≠ "" := by
  have hdrop : ∀ {s : List Char}, c ∈ s → c ∈ s.dropWhile isBlank := by
    intro s hs
    rw [← List.takeWhile_append_dropWhile (p := isBlank) (l := s)] at hs
    refine (List.mem_append.1 hs).resolve_left fun htake => ?_
    exact absurd (List.all_eq_true.1 List.all_takeWhile c htake) (by simp [hc])
  have htrim : c ∈ trim text.toList :=
    List.mem_reverse.2 (hdrop (List.mem_reverse.2 (hdrop hmem)))
  intro hempty
  have hnil : trim text.toList = [] := by
    simpa [strip] using congrArg String.toList hempty
  simp [hnil] at htrim

/-- A text that is nested too deep is not blank. -/
theorem strip_ne_empty_of_opensTooDeep {limit : Nat} {c : Json.Container} {text : String}
    (h : Json.OpensTooDeep limit c text.toList) : strip text ≠ "" := by
  obtain ⟨blanks, t, htext, -, hopens⟩ := h
  obtain ⟨d, more, rfl, hd⟩ := hopens.exists_bracket
  refine strip_ne_empty_of_mem (c := d) (by simp [htext]) ?_
  rcases hd with rfl | rfl <;> decide

theorem conditionOf_eq_ok_iff {limit : Nat} {typed : Option String} :
    (∃ condition, Draft.conditionOf limit typed = .ok condition) ↔ IsReadable limit typed := by
  cases typed with
  | none => simp [Draft.conditionOf, IsReadable]
  | some text =>
      by_cases hblank : strip text = ""
      · simp [Draft.conditionOf, IsReadable, hblank]
      · cases hread : Json.read limit text <;> simp [Draft.conditionOf, IsReadable, hblank, hread]

/-- **Why a condition cannot be read.** -/
theorem conditionOf_eq_error_iff {limit : Nat} {typed : Option String} {failure : DraftFailure} :
    Draft.conditionOf limit typed = .error failure ↔ ∃ text fault, typed = some text ∧
      strip text ≠ "" ∧ Json.read limit text = .error fault ∧ failure = .ofFault fault := by
  cases typed with
  | none => simp [Draft.conditionOf]
  | some text =>
      by_cases hblank : strip text = ""
      · simp [Draft.conditionOf, hblank]
      · cases hread : Json.read limit text with
        | ok v => simp [Draft.conditionOf, hblank, hread]
        | error fault =>
            simp only [Draft.conditionOf, String.isEmpty_iff, hblank, if_false, hread,
              Except.error.injEq, Option.some.injEq]
            constructor
            · rintro rfl
              exact ⟨text, fault, rfl, hblank, hread, rfl⟩
            · rintro ⟨_, fault', rfl, -, hread', rfl⟩
              rw [Except.error.inj (hread.symm.trans hread')]

/-- Only a condition that is nested too deep is neither read nor refused. -/
theorem conditionOf_eq_deepCondition_iff {limit : Nat} {typed : Option String}
    {c : Json.Container} :
    Draft.conditionOf limit typed = .error (.deepCondition c) ↔ IsDeepCondition limit c typed := by
  have hfault : ∀ fault, DraftFailure.deepCondition c = .ofFault fault ↔ fault = .tooDeep c := by
    intro fault
    cases fault <;> simp [DraftFailure.ofFault, eq_comm]
  rw [conditionOf_eq_error_iff]
  constructor
  · rintro ⟨text, fault, rfl, -, hread, hdeep⟩
    obtain rfl := (hfault fault).1 hdeep
    exact ⟨text, rfl, Json.read_eq_tooDeep_iff.1 hread⟩
  · rintro ⟨text, rfl, hopens⟩
    exact ⟨text, _, rfl, strip_ne_empty_of_opensTooDeep hopens, Json.read_eq_tooDeep_iff.2 hopens,
      (hfault _).2 rfl⟩

/-! ### Making a policy -/

section Assemble

variable {limit : Nat} {given : Option String} {now : Double} {millis : Int}

/-- With a clock there is always an id. -/
theorem exists_runIn_givenOrNewSid (hmillis : Sid.millis? now = some millis)
    (given : Option String) (w : Workspace) :
    ∃ sid w', (Generator.givenOrNewSid given now).runIn w = (.ok sid, w') := by
  unfold Generator.givenOrNewSid
  cases given.filter (!·.isEmpty) with
  | none => exact ⟨_, _, Generator.runIn_newSid_eq hmillis _ w⟩
  | some sid => exact ⟨sid, w, rfl⟩

theorem runIn_assemble_of_nil {order : Order} (h : order.actions = []) (w : Workspace) :
    (Generator.assemble limit given now order).runIn w = (.error (.draft .noActions), w) := by
  have hcheck : Draft.checkActions order.actions = .error .noActions := by
    simp [Draft.checkActions, h]
  rw [Generator.assemble, Work.runIn_bind, hcheck]
  rfl

/-- **With actions only the condition can stand in the way of a policy.** -/
theorem runIn_assemble_cases (hmillis : Sid.millis? now = some millis) (order : Order)
    {actions : List String} (hactions : order.actions = actions.map .named) (hne : actions ≠ [])
    (w : Workspace) :
    (∃ d w', (Generator.assemble limit given now order).runIn w = (.ok d, w') ∧
        IsReadable limit order.condition) ∨
      ∃ failure w',
        (Generator.assemble limit given now order).runIn w = (.error (.draft failure), w') ∧
        Draft.conditionOf limit order.condition = .error failure := by
  have hcheck : Draft.checkActions order.actions = .ok () := by
    simp [Draft.checkActions, hactions, hne]
  obtain ⟨sid, w', hsid⟩ := exists_runIn_givenOrNewSid hmillis given w
  have hrun : (Generator.assemble limit given now order).runIn w =
      (Work.ofExcept .draft (Draft.ofOrder limit sid order)).runIn w' := by
    rw [Generator.assemble, hcheck]
    exact Work.runIn_bind_of_ok hsid
  rw [hrun]
  unfold Draft.ofOrder
  rw [hcheck]
  cases hcondition : Draft.conditionOf limit order.condition with
  | ok condition => exact .inl ⟨_, _, rfl, conditionOf_eq_ok_iff.1 ⟨condition, hcondition⟩⟩
  | error failure => exact .inr ⟨failure, _, rfl, rfl⟩

/-- A condition that is refused, or that is nested too deep. -/
theorem endsAsTold_error_iff {actions : List String} {condition : Option String}
    {failure : DraftFailure} (hne : actions ≠ [])
    (h : Draft.conditionOf limit condition = .error failure) :
    EndsAsTold limit actions condition (.error (.draft failure)) ↔
      ∀ c, failure ≠ .deepCondition c := by
  constructor
  · rintro hends c rfl
    cases hends
  · intro hdeep
    obtain ⟨text, fault, htyped, hblank, hread, rfl⟩ := conditionOf_eq_error_iff.1 h
    cases fault with
    | tooDeep c => exact absurd rfl (hdeep c)
    | malformed | excluded | tooManyDigits =>
        exact .badCondition hne htyped hblank hread (by simp)

/-- **When a policy or a refusal comes out.**  This is so unless there are actions and the condition
is nested too deep; then the failure of the reader is passed on. -/
theorem endsAsTold_iff (hmillis : Sid.millis? now = some millis) {bucket : String}
    {effect path condition : Option String} {actions : List String} {w w' : Workspace}
    {result : Except Failure Draft}
    (h : (Generator.assemble limit given now
      ⟨bucket, effect, actions.map .named, path, condition⟩).runIn w = (result, w')) :
    (EndsAsTold limit actions condition result ↔
        actions = [] ∨ ∀ c, ¬ IsDeepCondition limit c condition) ∧
      (result = .error (.draft .noActions) ↔ actions = []) ∧
      ∀ c, result = .error (.draft (.deepCondition c)) ↔
        actions ≠ [] ∧ IsDeepCondition limit c condition := by
  by_cases hne : actions = []
  · obtain rfl : .error (.draft .noActions) = result :=
      (Prod.mk.inj ((runIn_assemble_of_nil (by simp [hne]) w).symm.trans h)).1
    exact ⟨⟨fun _ => .inl hne, fun _ => .noActions hne⟩, by simp [hne], by simp [hne]⟩
  · have hdeep : ∀ c, IsDeepCondition limit c condition ↔
        Draft.conditionOf limit condition = .error (.deepCondition c) :=
      fun c => conditionOf_eq_deepCondition_iff.symm
    simp only [hne, false_or, hdeep, ne_eq, not_false_eq_true, true_and, iff_false]
    rcases runIn_assemble_cases hmillis ⟨bucket, effect, actions.map .named, path, condition⟩ rfl
      hne w with ⟨d, w₁, hrun, hreadable⟩ | ⟨failure, w₁, hrun, hcondition⟩
    · obtain rfl : .ok d = result := (Prod.mk.inj (hrun.symm.trans h)).1
      obtain ⟨read, hread⟩ := conditionOf_eq_ok_iff.2 hreadable
      simp only at hread
      exact ⟨by simp [hread, EndsAsTold.made hne hreadable], by simp, by simp [hread]⟩
    · obtain rfl : .error (.draft failure) = result := (Prod.mk.inj (hrun.symm.trans h)).1
      simp only at hcondition
      refine ⟨?_, ?_, ?_⟩
      · rw [endsAsTold_error_iff hne hcondition]
        simp [hcondition]
      · obtain ⟨text, fault, -, -, -, rfl⟩ := conditionOf_eq_error_iff.1 hcondition
        cases fault <;> simp [DraftFailure.ofFault]
      · simp [hcondition]

end Assemble

/-- An order with a condition that breaks off inside an object. -/
theorem endsAsTold_unfinished :
    Sid.millis? (.finite false 0) = some 0 ∧
      ∃ result w', (Generator.assemble 990 none (.finite false 0) ⟨"abc", some "Allow",
          ["s3:GetObject"].map .named, some "*", some "\x7b\"Bool\": "⟩).runIn (.fresh ⟨[], []⟩) =
            (result, w') ∧
        (EndsAsTold 990 ["s3:GetObject"] (some "\x7b\"Bool\": ") result ↔
            ["s3:GetObject"] = [] ∨ ∀ c, ¬ IsDeepCondition 990 c (some "\x7b\"Bool\": ")) ∧
          (result = .error (.draft .noActions) ↔ ["s3:GetObject"] = []) ∧
          ∀ c, result = .error (.draft (.deepCondition c)) ↔
            ["s3:GetObject"] ≠ [] ∧ IsDeepCondition 990 c (some "\x7b\"Bool\": ") := by
  have hmillis : Sid.millis? (.finite false 0) = some 0 := by decide +kernel
  exact ⟨hmillis, _, _, Prod.mk.eta.symm, endsAsTold_iff hmillis Prod.mk.eta.symm⟩

/-- A condition of nothing but opening brackets is not refused, though it is no document. -/
theorem not_endsAsTold_brackets :
    ∃ w', (Generator.assemble 990 (some "Read") (.finite false 0) ⟨"abc", some "Allow",
        ["s3:GetObject"].map .named, some "*",
        some (String.ofList (List.replicate 5000 '['))⟩).runIn (.fresh ⟨[], []⟩) =
          (.error (.draft (.deepCondition .array)), w') ∧
      ¬ EndsAsTold 990 ["s3:GetObject"] (some (String.ofList (List.replicate 5000 '[')))
        (.error (.draft (.deepCondition .array))) := by
  have hdeep : IsDeepCondition 990 .array (some (String.ofList (List.replicate 5000 '['))) := by
    refine ⟨_, rfl, ?_⟩
    rw [String.toList_ofList]
    exact Json.opensTooDeep_replicate (by decide)
  have hcondition := conditionOf_eq_deepCondition_iff.2 hdeep
  have hne : ["s3:GetObject"] ≠ [] := by simp
  have hmillis : Sid.millis? (.finite false 0) = some 0 := by decide +kernel
  have hends := (endsAsTold_error_iff hne hcondition).not.2 (by simp)
  rcases runIn_assemble_cases hmillis ⟨"abc", some "Allow", ["s3:GetObject"].map .named, some "*",
    some (String.ofList (List.replicate 5000 '['))⟩ rfl hne (.fresh ⟨[], []⟩) with
    ⟨d, w', -, hreadable⟩ | ⟨failure, w', hrun, hfailure⟩
  · obtain ⟨read, hread⟩ := conditionOf_eq_ok_iff.2 hreadable
    exact absurd (hread.symm.trans hcondition) (by simp)
  · obtain rfl := Except.error.inj (hfailure.symm.trans hcondition)
    exact ⟨w', hrun, hends⟩

end BucketAccess.Policy
