/-
**The order of members is not looked at.**

A policy is made of objects, and the order in which the members of an object stand means nothing.
The review asks for the fields it knows by their names, and goes through the others one by one; so
documents that differ in the order of members only have the same verdict.  What is told about them
is the same as well, in another order.  There is one exception: an effect that is an array or an
object is shown in the message as it stands, so there the words may differ, but not what is the
matter.

Main definitions:

* `BucketAccess.Policy.AlikeIn` — findings that look the same, in another order;
* `BucketAccess.Policy.HasSimpleEffects` — documents without arrays and objects as effects.

Main results:

* `BucketAccess.Policy.alikeIn_statementFindings` — what is found in a statement;
* `BucketAccess.Policy.alikeIn_findings` — **what is found in a document**;
* `BucketAccess.Policy.review_of_reorders` — **the verdict does not depend on the order of
  members**.
-/

import BucketAccess.Proofs.Json.Reordering
import BucketAccess.Proofs.Policy.Places

set_option relaxedAutoImplicit false
set_option autoImplicit false

namespace BucketAccess.Policy

open BucketAccess.Json BucketAccess.Text

/-! ### Findings in another order -/

/-- Findings that look the same in a view, in another order. -/
def AlikeIn {β : Type} (view : Finding → β) (found found' : List Finding) : Prop :=
  (found.map view).Perm (found'.map view)

section AlikeIn

variable {β : Type} {view : Finding → β} {found found' more more' : List Finding}

theorem AlikeIn.of_perm (h : found.Perm found') : AlikeIn view found found' :=
  h.map view

theorem AlikeIn.of_eq (h : found = found') : AlikeIn view found found' :=
  .of_perm (.of_eq h)

theorem AlikeIn.append (h : AlikeIn view found found') (hmore : AlikeIn view more more') :
    AlikeIn view (found ++ more) (found' ++ more') := by
  rw [AlikeIn, List.map_append, List.map_append]
  exact List.Perm.append h hmore

end AlikeIn

/-! ### Members -/

section Members

variable {members others : Members}

theorem isNull_eq {v w : Value} (h : v.Reorders w) : isNull v = isNull w := by
  cases h <;> rfl

theorem present?_rel (h : SameMembers Value.Reorders members others) (key : Str) :
    Option.Rel Value.Reorders (present? members key) (present? others key) := by
  rw [present?, present?]
  rcases cases_of_rel (h.lookup key) with ⟨hnone, hnone'⟩ | ⟨v, w, hsome, hsome', hvalue⟩
  · rw [hnone, hnone']
    exact .none
  · rw [hsome, hsome', Option.filter_some, Option.filter_some, isNull_eq hvalue]
    cases isNull w with
    | true => exact .none
    | false => exact .some hvalue

/-- A member is there in both, and its values are alike, or it is in neither. -/
theorem present?_cases (h : SameMembers Value.Reorders members others) (key : Str) :
    (present? members key = none ∧ present? others key = none) ∨
      ∃ v w, present? members key = some v ∧ present? others key = some w ∧ v.Reorders w :=
  cases_of_rel (present?_rel h key)

end Members

/-! ### Checks of single values -/

/-- A check that finds the same in values that differ in the order of members. -/
def IgnoresOrder (check : List Step → Value → List Finding) : Prop :=
  ∀ place v w, v.Reorders w → check place v = check place w

theorem ignoresOrder_actionFindings : IgnoresOrder actionFindings := by
  intro place v w h
  cases h <;> rfl

theorem ignoresOrder_resourceFindings : IgnoresOrder resourceFindings := by
  intro place v w h
  cases h <;> rfl

theorem ignoresOrder_identityFindings : IgnoresOrder identityFindings := by
  intro place v w h
  cases h <;> rfl

theorem ignoresOrder_serviceFindings : IgnoresOrder serviceFindings := by
  intro place v w h
  cases h <;> rfl

theorem ignoresOrder_operatorFindings (operator : Str) :
    IgnoresOrder fun place block => operatorFindings place operator block := by
  intro place v w h
  cases h <;> rfl

theorem entries_rel {v w : Value} (h : v.Reorders w) :
    List.Forall₂ Value.Reorders (entries v) (entries w) := by
  cases h with
  | arr hitems => exact hitems
  | null => exact .cons .null .nil
  | bool b => exact .cons (.bool b) .nil
  | int i => exact .cons (.int i) .nil
  | real x => exact .cons (.real x) .nil
  | str s => exact .cons (.str s) .nil
  | obj hnames hperm hmembers => exact .cons (.obj hnames hperm hmembers) .nil

section Lists

variable {check : List Step → Value → List Finding}

theorem entryFindings_eq (hcheck : IgnoresOrder check) (place : List Step)
    {items others : List Value} (h : List.Forall₂ Value.Reorders items others) :
    entryFindings place check items = entryFindings place check others := by
  rw [entryFindings_eq_flatMap, entryFindings_eq_flatMap]
  exact rel_flatMap_zipIdx rfl (fun _ _ _ _ h hmore => by rw [h, hmore]) h
    (fun v w i hvalue => hcheck _ v w hvalue) 0

theorem ignoresOrder_listFindings (hcheck : IgnoresOrder check) :
    IgnoresOrder fun place v => listFindings place check v := by
  intro place v w h
  have hentries := entries_rel h
  have hempty : ∀ {items others}, List.Forall₂ Value.Reorders items others →
      items.isEmpty = others.isEmpty := by
    intro items others hitems
    cases hitems <;> rfl
  simp only [listFindings, hempty hentries, entryFindings_eq hcheck place hentries]

variable {members others : Members}

theorem choiceFindings_eq (hcheck : IgnoresOrder check) (place : List Step)
    (h : SameMembers Value.Reorders members others) (field negated : String) :
    choiceFindings place members field negated check =
      choiceFindings place others field negated check :=
  choiceFindings_congr place fun key _ => rel_imp
    (fun v w hvalue place => ignoresOrder_listFindings hcheck place v w hvalue)
    (present?_rel h key)

theorem listedFindings_eq (hcheck : IgnoresOrder check) (place : List Step)
    (h : SameMembers Value.Reorders members others) (key : Str) :
    listedFindings place members key check = listedFindings place others key check :=
  listedFindings_congr place (rel_imp
    (fun _ _ hvalue place => entryFindings_eq hcheck place (entries_rel hvalue))
    (present?_rel h key))

end Lists

/-! ### Fields that are gone through -/

section Fields

variable {members others : Members}

theorem conditionFindings_perm (place : List Step) {v w : Value} (h : v.Reorders w) :
    (conditionFindings place v).Perm (conditionFindings place w) := by
  cases h with
  | obj hnames hperm hmembers =>
      have hsame : SameMembers Value.Reorders _ _ := ⟨hnames, _, hperm, hmembers⟩
      exact hsame.flatMap_perm fun key v w hvalue =>
        ignoresOrder_operatorFindings key place v w hvalue
  | _ => exact .refl _

theorem conditionFieldFindings_perm (place : List Step)
    (h : SameMembers Value.Reorders members others) :
    (conditionFieldFindings place members).Perm (conditionFieldFindings place others) := by
  unfold conditionFieldFindings
  rcases present?_cases h "Condition" with ⟨hnone, hnone'⟩ | ⟨v, w, hsome, hsome', hvalue⟩
  · simp only [hnone, hnone', List.Perm.refl]
  · simp only [hsome, hsome']
    exact conditionFindings_perm _ hvalue

theorem unknownFieldFindings_perm (place : List Step)
    (h : SameMembers Value.Reorders members others) :
    (unknownFieldFindings place members).Perm (unknownFieldFindings place others) :=
  h.keys_perm.flatMap_right _

theorem unknownRootFindings_perm (h : SameMembers Value.Reorders members others) :
    (unknownRootFindings members).Perm (unknownRootFindings others) :=
  h.keys_perm.flatMap_right _

theorem principalFindings_perm (place : List Step) {v w : Value} (h : v.Reorders w) :
    (principalFindings place v).Perm (principalFindings place w) := by
  cases h with
  | obj hnames hperm hmembers =>
      have hsame : SameMembers Value.Reorders _ _ := ⟨hnames, _, hperm, hmembers⟩
      simp only [principalFindings,
        listedFindings_eq ignoresOrder_identityFindings place hsame "AWS",
        listedFindings_eq ignoresOrder_serviceFindings place hsame "Service"]
      exact ((hsame.keys_perm.flatMap_right _).append_right _).append_right _
  | _ => exact .refl _

theorem principalFieldFindings_perm (inside : Bool) (place : List Step)
    (h : SameMembers Value.Reorders members others) (field : String) :
    (principalFieldFindings inside place members field).Perm
      (principalFieldFindings inside place others field) := by
  unfold principalFieldFindings
  rcases present?_cases h field with ⟨hnone, hnone'⟩ | ⟨v, w, hsome, hsome', hvalue⟩
  · simp only [hnone, hnone', List.Perm.refl]
  · simp only [hsome, hsome']
    refine .cons _ ?_
    cases inside with
    | false => exact .refl _
    | true => exact principalFindings_perm _ hvalue

theorem sidFindings_eq (place : List Step) (h : SameMembers Value.Reorders members others) :
    sidFindings place members = sidFindings place others := by
  have hlookup := h.lookup "Sid"
  unfold sidFindings
  generalize List.lookup ("Sid" : Str) members = found at hlookup
  generalize List.lookup ("Sid" : Str) others = found' at hlookup
  cases hlookup with
  | none => rfl
  | some hvalue => cases hvalue <;> rfl

end Fields

/-! ### Effects -/

/-- Arrays and objects. -/
def IsCompound : Value → Prop
  | .arr _ | .obj _ => True
  | _ => False

/-- Statements without an array or an object as effect. -/
def HasSimpleEffect : Value → Prop
  | .obj members => ∀ v, List.lookup ("Effect" : Str) members = some v → ¬ IsCompound v
  | _ => True

/-- Documents without arrays and objects as effects. -/
def HasSimpleEffects : Value → Prop
  | .obj members =>
      ∀ items, List.lookup ("Statement" : Str) members = some (.arr items) →
        ∀ v ∈ items, HasSimpleEffect v
  | _ => True

/-- Views in which the message about an unknown effect looks the same whatever it shows. -/
def HidesEffect {β : Type} (view : Finding → β) : Prop :=
  ∀ place shown shown', view ⟨place, .effectUnknown shown⟩ = view ⟨place, .effectUnknown shown'⟩

section Views

variable {β : Type} {view : Finding → β}

theorem alikeIn_effectFindings (place : List Step) {members others : Members}
    (h : SameMembers Value.Reorders members others)
    (hview : HidesEffect view ∨ HasSimpleEffect (.obj members)) :
    AlikeIn view (effectFindings place members) (effectFindings place others) := by
  unfold effectFindings
  rcases present?_cases h "Effect" with ⟨hnone, hnone'⟩ | ⟨v, w, hsome, hsome', hvalue⟩
  · simp only [hnone, hnone']
    exact .of_eq rfl
  · have hlookup := (Option.filter_eq_some_iff.1 hsome).1
    have hshown : IsCompound v → ∀ shown shown',
        AlikeIn view [⟨place, .effectUnknown shown⟩] [⟨place, .effectUnknown shown'⟩] := by
      intro hcompound shown shown'
      have hhides := hview.resolve_right fun hsimple => hsimple v hlookup hcompound
      simp [AlikeIn, hhides place shown shown']
    simp only [hsome, hsome']
    cases hvalue with
    | arr _ => exact hshown trivial _ _
    | obj _ _ _ => exact hshown trivial _ _
    | _ => exact .of_eq rfl

/-- **What is found in a statement**, for a view that does not show more of an effect than its
order lets. -/
theorem alikeIn_statementFindings (inside : Bool) (place : List Step) {v w : Value}
    (h : v.Reorders w) (hview : HidesEffect view ∨ HasSimpleEffect v) :
    AlikeIn view (statementFindings inside place v) (statementFindings inside place w) := by
  cases h with
  | obj hnames hperm hmembers =>
      have hsame : SameMembers Value.Reorders _ _ := ⟨hnames, _, hperm, hmembers⟩
      have hsid := sidFindings_eq place hsame
      have haction := choiceFindings_eq ignoresOrder_actionFindings place hsame
      have hresource := choiceFindings_eq ignoresOrder_resourceFindings place hsame
      exact (((((((AlikeIn.of_eq hsid).append (alikeIn_effectFindings place hsame hview)).append
        (.of_perm (principalFieldFindings_perm inside place hsame _))).append
        (.of_perm (principalFieldFindings_perm inside place hsame _))).append
        (.of_eq (haction _ _))).append (.of_eq (hresource _ _))).append
        (.of_perm (conditionFieldFindings_perm place hsame))).append
        (.of_perm (unknownFieldFindings_perm place hsame))
  | _ => exact .of_eq rfl

/-- What is found in the statements of a policy. -/
theorem alikeIn_statementsFindings (inside : Bool) {members others : Members}
    (h : SameMembers Value.Reorders members others)
    (hview : HidesEffect view ∨ HasSimpleEffects (.obj members)) :
    AlikeIn view (statementsFindings inside members) (statementsFindings inside others) := by
  unfold statementsFindings
  rcases present?_cases h "Statement" with ⟨hnone, hnone'⟩ | ⟨v, w, hsome, hsome', hvalue⟩
  · simp only [hnone, hnone']
    exact .of_eq rfl
  · simp only [hsome, hsome']
    cases hvalue with
    | @arr items others hitems =>
        have hlookup := (Option.filter_eq_some_iff.1 hsome).1
        have heffects : ∀ v ∈ items, HidesEffect view ∨ HasSimpleEffect v := by
          intro v hv
          exact hview.imp_right fun hsimple => hsimple items hlookup v hv
        have hboth := (List.forall₂_and_left items others).2 ⟨heffects, hitems⟩
        cases hitems with
        | nil => exact .of_eq rfl
        | cons hfirst hrest =>
            simp only [entryFindings_eq_flatMap]
            exact rel_flatMap_zipIdx (.of_eq rfl) (fun _ _ _ _ => AlikeIn.append) hboth
              (fun v w i hvalue => alikeIn_statementFindings inside _ hvalue.2 hvalue.1) 0
    | _ => exact .of_eq rfl

theorem versionFindings_eq {members others : Members}
    (h : SameMembers Value.Reorders members others) :
    versionFindings members = versionFindings others := by
  unfold versionFindings
  rcases present?_cases h "Version" with ⟨hnone, hnone'⟩ | ⟨v, w, hsome, hsome', hvalue⟩
  · simp only [hnone, hnone']
  · simp only [hsome, hsome']
    cases hvalue <;> rfl

theorem idFindings_eq {members others : Members} (h : SameMembers Value.Reorders members others) :
    idFindings members = idFindings others := by
  unfold idFindings
  rcases present?_cases h "Id" with ⟨hnone, hnone'⟩ | ⟨v, w, hsome, hsome', hvalue⟩
  · simp only [hnone, hnone']
  · simp only [hsome, hsome']
    cases hvalue <;> rfl

/-- **What is found in a document**, for a view that does not show more of an effect than its order
lets. -/
theorem alikeIn_findings (inside : Bool) {d e : Value} (h : d.Reorders e)
    (hview : HidesEffect view ∨ HasSimpleEffects d) :
    AlikeIn view (findings inside d) (findings inside e) := by
  cases h with
  | obj hnames hperm hmembers =>
      have hsame : SameMembers Value.Reorders _ _ := ⟨hnames, _, hperm, hmembers⟩
      exact (((AlikeIn.of_eq (versionFindings_eq hsame)).append
        (alikeIn_statementsFindings inside hsame hview)).append
        (.of_perm (unknownRootFindings_perm hsame))).append (.of_eq (idFindings_eq hsame))
  | _ => exact .of_eq rfl

end Views

/-! ### The verdict -/

/-- **The verdict does not depend on the order of members.**  Documents that differ in the order of
members only are accepted alike, and have as many errors and as many warnings; and these are the
same, in another order, unless an effect is an array or an object. -/
theorem review_of_reorders (inside : Bool) {d e : Value} (h : d.Reorders e) :
    (review inside d).isValid = (review inside e).isValid ∧
      (review inside d).errors.length = (review inside e).errors.length ∧
      (review inside d).warnings.length = (review inside e).warnings.length ∧
      (HasSimpleEffects d →
        (review inside d).errors.Perm (review inside e).errors ∧
          (review inside d).warnings.Perm (review inside e).warnings) := by
  have hcount : ∀ severity,
      (Verdict.messages Finding.severity Finding.message severity (findings inside d)).length =
        (Verdict.messages Finding.severity Finding.message severity
          (findings inside e)).length := by
    intro severity
    have hhides : HidesEffect Finding.severity := fun _ _ _ => rfl
    have halike := (alikeIn_findings inside h (.inl hhides)).filter (· = severity)
    simpa [Verdict.messages, List.filter_map, Function.comp_def] using halike.length_eq
  have hperm : HasSimpleEffects d → ∀ severity,
      (Verdict.messages Finding.severity Finding.message severity (findings inside d)).Perm
        (Verdict.messages Finding.severity Finding.message severity (findings inside e)) := by
    intro hsimple severity
    have halike : ((findings inside d).map id).Perm ((findings inside e).map id) :=
      alikeIn_findings inside h (.inr hsimple)
    rw [List.map_id, List.map_id] at halike
    exact (halike.filter _).map _
  have herrors : (review inside d).errors.length = (review inside e).errors.length := hcount .error
  have hvalid : (review inside d).isValid = (review inside e).isValid := by
    rw [Bool.eq_iff_iff, Verdict.isValid, Verdict.isValid, List.isEmpty_iff_length_eq_zero,
      List.isEmpty_iff_length_eq_zero, herrors]
  exact ⟨hvalid, herrors, hcount .warning, fun hsimple =>
    ⟨hperm hsimple .error, hperm hsimple .warning⟩⟩

/-- An effect that is an object is shown with its members in their order. -/
example : effectFindings [] [("Effect", .obj [("a", .null), ("b", .null)])] ≠
    effectFindings [] [("Effect", .obj [("b", .null), ("a", .null)])] := by
  decide +kernel

/-- A policy with an unknown effect and two unknown operators. -/
def faultyPolicy : Value :=
  .obj [("Version", .str "2012-10-17"),
    ("Statement", .arr [.obj [("Effect", .str "Permit"),
      ("Condition", .obj [("Is", .null), ("Has", .obj [])])]])]

/-- The same policy in another order, down to its condition. -/
def shuffledPolicy : Value :=
  .obj [("Statement", .arr [.obj [("Condition", .obj [("Has", .obj []), ("Is", .null)]),
      ("Effect", .str "Permit")]]),
    ("Version", .str "2012-10-17")]

/-- What is the matter with a policy is told in whatever order its members stand. -/
theorem review_shuffledPolicy :
    faultyPolicy.Reorders shuffledPolicy ∧ HasSimpleEffects faultyPolicy ∧
      (review true faultyPolicy).isValid = (review true shuffledPolicy).isValid ∧
      (review true faultyPolicy).errors.length = (review true shuffledPolicy).errors.length ∧
      (review true faultyPolicy).warnings.length = (review true shuffledPolicy).warnings.length ∧
      (HasSimpleEffects faultyPolicy →
        (review true faultyPolicy).errors.Perm (review true shuffledPolicy).errors ∧
          (review true faultyPolicy).warnings.Perm (review true shuffledPolicy).warnings) := by
  have hnone : Value.Reorders (.obj []) (.obj []) := .obj (by decide) (.refl _) .nil
  have hcondition : Value.Reorders (.obj [("Is", .null), ("Has", .obj [])])
      (.obj [("Has", .obj []), ("Is", .null)]) :=
    .obj (by decide) (.swap _ _ _) (.cons (.intro _ hnone) (.cons (.intro _ .null) .nil))
  have hreorders : faultyPolicy.Reorders shuffledPolicy := by
    refine .obj (by decide) (.swap _ _ _) (.cons (.intro _ (.arr (.cons ?_ .nil)))
      (.cons (.intro _ (.str _)) .nil))
    exact .obj (by decide) (.swap _ _ _) (.cons (.intro _ hcondition)
      (.cons (.intro _ (.str _)) .nil))
  have hsimple : HasSimpleEffects faultyPolicy := by
    intro items hitems v hv
    obtain rfl : items = _ := (Value.arr.inj (Option.some.inj hitems)).symm
    rw [List.mem_singleton.1 hv]
    intro effect heffect
    obtain rfl : effect = _ := (Option.some.inj heffect).symm
    exact id
  exact ⟨hreorders, hsimple, review_of_reorders true hreorders⟩

end BucketAccess.Policy
