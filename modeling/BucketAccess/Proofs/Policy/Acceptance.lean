/-
**Which policy documents are accepted.**

A review accepts a document when nothing it finds is an error.  Findings are gathered field by
field, so for each field there is one statement here that says when what is found in it lets the
document pass, and the statement about whole documents is put together from them: exactly the
well-formed policies are accepted, and no finding about one field hides another.

Main definitions:

* `BucketAccess.Policy.Passes` — findings without an error.

Main results:

* `BucketAccess.Policy.passes_entryFindings`, `BucketAccess.Policy.passes_listFindings` — lists pass
  entry by entry;
* `BucketAccess.Policy.isKnownOperator_iff` — the operators that are known, with their qualifiers;
* `BucketAccess.Policy.passes_statementFindings` — a statement passes when it is well-formed;
* `BucketAccess.Policy.passes_findings` — and so does a document;
* `BucketAccess.Policy.isValid_review_iff_isPolicy` — **exactly the well-formed policies are
  accepted**.
-/

import BucketAccess.Policy.Review
import BucketAccess.Proofs.Policy.Grammar
import BucketAccess.Proofs.Text.Fields

set_option relaxedAutoImplicit false
set_option autoImplicit false

namespace BucketAccess.Policy

open BucketAccess.Json BucketAccess.Text

/-! ### Findings that let a document pass -/

/-- Findings that let a document pass: none of them is an error. -/
def Passes (findings : List Finding) : Prop :=
  ∀ f ∈ findings, f.severity = .warning

@[simp] theorem passes_nil : Passes [] := by simp [Passes]

@[simp] theorem passes_cons {f : Finding} {findings : List Finding} :
    Passes (f :: findings) ↔ f.problem.severity = .warning ∧ Passes findings := by
  simp [Passes, Finding.severity]

@[simp] theorem passes_append {findings more : List Finding} :
    Passes (findings ++ more) ↔ Passes findings ∧ Passes more := by
  simp [Passes, or_imp, forall_and]

@[simp] theorem passes_flatMap {α : Type} {xs : List α} {check : α → List Finding} :
    Passes (xs.flatMap check) ↔ ∀ x ∈ xs, Passes (check x) := by
  constructor
  · intro h x hx f hf
    exact h f (List.mem_flatMap.2 ⟨x, hx, hf⟩)
  · intro h f hf
    obtain ⟨x, hx, hfx⟩ := List.mem_flatMap.1 hf
    exact h x hx f hfx

@[simp] theorem passes_findingIf {condition : Bool} {place : List Step} {problem : Problem} :
    Passes (findingIf condition place problem) ↔
      (condition = true → problem.severity = .warning) := by
  cases condition <;> simp [findingIf]

/-- Entries pass together when each of them passes on its own. -/
theorem passes_entryFindings {check : List Step → Value → List Finding} {P : Value → Prop}
    (h : ∀ place v, Passes (check place v) ↔ P v) (place : List Step) (items : List Value) :
    Passes (entryFindings place check items) ↔ ∀ v ∈ items, P v := by
  constructor
  · intro hall v hv
    obtain ⟨i, hi, rfl⟩ := List.mem_iff_getElem.1 hv
    refine (h (place ++ [.index i]) _).1 fun f hf => hall f ?_
    exact List.mem_flatten.2 ⟨_, List.mem_mapIdx.2 ⟨i, hi, rfl⟩, hf⟩
  · intro hall f hf
    obtain ⟨found, hfound, hmem⟩ := List.mem_flatten.1 hf
    obtain ⟨i, hi, rfl⟩ := List.mem_mapIdx.1 hfound
    exact (h _ _).2 (hall _ (List.getElem_mem hi)) f hmem

theorem forall_mem_entries_iff {P : Value → Prop} {v : Value} :
    (∀ w ∈ entries v, P w) ↔ Each P v := by
  cases v <;> simp [entries, Each]

/-- A list that must not be empty passes when it has entries and each of them passes. -/
theorem passes_listFindings {check : List Step → Value → List Finding} {P : Value → Prop}
    (h : ∀ place v, Passes (check place v) ↔ P v) (place : List Step) (v : Value) :
    Passes (listFindings place check v) ↔ OneOrMore P v := by
  have hentries : (entries v).isEmpty = true ↔ v = .arr [] := by cases v <;> simp [entries]
  by_cases hv : v = .arr []
  · simp [hv, listFindings, entries, OneOrMore, Problem.severity]
  · rw [OneOrMore, listFindings, if_neg (mt hentries.1 hv), passes_entryFindings h,
      forall_mem_entries_iff]
    simp [hv]

/-! ### What members may be -/

theorem isNull_iff {v : Value} : isNull v = true ↔ v = .null := by
  cases v <;> simp [isNull]

theorem present?_eq_some_iff {members : Members} {key : Str} {v : Value} :
    present? members key = some v ↔ Given members key v := by
  simp only [present?, Option.filter_eq_some_iff, Given, Bool.not_eq_true', and_congr_right_iff]
  intro _
  rw [← Bool.not_eq_true, isNull_iff]

/-- A value that is not null counts where it is. -/
theorem lookup_eq_some_iff_present? {members : Members} {key : Str} {v : Value}
    (hv : v ≠ .null) :
    List.lookup key members = some v ↔ present? members key = some v := by
  simp [present?_eq_some_iff, Given, hv]

/-- A member that may be absent passes when its value, where it counts, passes. -/
theorem passes_optional {members : Members} {key : Str} {check : Value → List Finding}
    {P : Value → Prop} (h : ∀ v, Passes (check v) ↔ P v) :
    Passes (match present? members key with | some v => check v | none => []) ↔
      ∀ v, Given members key v → P v := by
  simp only [← present?_eq_some_iff]
  cases present? members key with
  | none => simp
  | some v => simp [h]

/-! ### Actions and resources -/

theorem passes_actionFindings (place : List Step) (v : Value) :
    Passes (actionFindings place v) ↔ IsAction v := by
  cases v with
  | str action =>
      by_cases hcolon : (':' : Point) ∈ action.toList
      · obtain ⟨more, hmore⟩ :=
          exists_splitOn_eq_cons (':' : Point) (behindFirst (':' : Point) action.toList)
        -- a foreign service and an unknown action are worth a warning only
        simp only [actionFindings, splitOn_of_mem hcolon, hmore, IsAction, hcolon, iff_true]
        split <;> simp [Problem.severity]
      · simp [actionFindings, IsAction, splitOn_of_not_mem hcolon, hcolon, Problem.severity]
  | _ => simp [actionFindings, IsAction, Problem.severity]

theorem passes_bucketFindings (place : List Step) (rest : Str) :
    Passes (bucketFindings place rest.toList) ↔ IsBucketPart rest := by
  by_cases hempty : rest = ""
  · subst hempty
    simp only [bucketFindings, Str.toList_coe, String.toList_empty, List.map_nil,
      List.isEmpty_nil, if_true, passes_cons, Problem.severity, reduceCtorEq, false_and, false_iff]
    exact fun h => h.ne_empty rfl
  · have hne : rest.toList.isEmpty = false := by
      rw [← Bool.not_eq_true]
      exact mt Str.isEmpty_iff.1 hempty
    simp only [bucketFindings, hne, Bool.false_eq_true, if_false, passes_append,
      passes_findingIf, contains_iff, Problem.severity, reduceCtorEq, imp_false]
    constructor
    · rintro ⟨hslashes, hshort⟩
      refine ⟨hempty, hslashes, fun hslash => ?_⟩
      have hlength : rest.toList.length ≤ Bucket.maxLength := by
        simpa [hslash, Problem.severity] using hshort
      exact hlength
    · intro h
      refine ⟨h.single_slashes, ?_⟩
      by_cases hslash : ('/' : Point) ∈ rest.toList
      · simp [hslash]
      · have hlength : rest.toList.length ≤ Bucket.maxLength := h.short hslash
        simpa [hslash, Problem.severity] using hlength

/-- What has to start in a given way passes when what follows the start passes. -/
theorem passes_behindLead {lead : String} {s : Str} {P : Str → Prop} (check : Str → List Finding)
    (h : ∀ rest, Passes (check rest) ↔ P rest) (place : List Step) {problem : Problem}
    (hproblem : problem.severity = .error) :
    Passes (match s.dropLead? lead with
        | some rest => check rest
        | none => [⟨place, problem⟩]) ↔
      ∃ rest : Str, s = lead ++ rest ∧ P rest := by
  cases hdrop : s.dropLead? lead with
  | none =>
      simp only [passes_cons, hproblem, reduceCtorEq, false_and, false_iff]
      rintro ⟨rest, hrest, -⟩
      simp [Str.dropLead?_eq_some_iff.2 hrest] at hdrop
  | some rest =>
      simp only [h]
      constructor
      · intro hrest
        exact ⟨rest, Str.dropLead?_eq_some_iff.1 hdrop, hrest⟩
      · rintro ⟨other, hother, hP⟩
        rw [Str.dropLead?_eq_some_iff.2 hother, Option.some.injEq] at hdrop
        exact hdrop ▸ hP

theorem passes_resourceFindings (place : List Step) (v : Value) :
    Passes (resourceFindings place v) ↔ IsResource v := by
  cases v with
  | str resource =>
      by_cases hall : resource = "*"
      · simp [resourceFindings, IsResource, hall]
      · simp only [resourceFindings, hall, if_false, IsResource, false_or]
        exact passes_behindLead (fun rest => bucketFindings place rest.toList)
          (passes_bucketFindings place) place rfl
  | _ => simp [resourceFindings, IsResource, Problem.severity]

/-! ### Conditions -/

/-- A qualifier in front of an operator is dropped. -/
theorem unqualified_append {qualifier : String} (h : qualifier ∈ Catalog.setQualifiers)
    (operator : Str) : Catalog.unqualified (qualifier ++ operator) = operator := by
  simp only [Catalog.setQualifiers, List.mem_cons, List.not_mem_nil, or_false] at h
  rcases h with rfl | rfl <;>
    simp [Catalog.unqualified, Catalog.setQualifiers, Str.dropLead?, dropLead?]

/-- A key is an operator without its qualifier, or has a qualifier in front of it. -/
theorem eq_unqualified_or (key : Str) : key = Catalog.unqualified key ∨
    ∃ qualifier ∈ Catalog.setQualifiers, key = qualifier ++ Catalog.unqualified key := by
  cases hfound : Catalog.setQualifiers.findSome? fun q => key.dropLead? q with
  | none => exact .inl (by simp [Catalog.unqualified, hfound])
  | some rest =>
      obtain ⟨qualifier, hmem, hdrop⟩ := List.exists_of_findSome?_eq_some hfound
      refine .inr ⟨qualifier, hmem, ?_⟩
      simpa [Catalog.unqualified, hfound] using Str.dropLead?_eq_some_iff.1 hdrop

/-- No operator starts with a qualifier. -/
theorem unqualified_of_mem {operator : String} (h : operator ∈ Catalog.conditionOperators) :
    Catalog.unqualified operator = operator := by
  have hall : ∀ name ∈ Catalog.conditionOperators, Catalog.unqualified name = name := by
    decide +kernel
  exact hall operator h

theorem isKnownOperator_iff {key : Str} :
    Catalog.isKnownOperator key = true ↔ IsOperator key := by
  rw [Catalog.isKnownOperator, Str.isOneOf_iff]
  constructor
  · rintro ⟨operator, hmem, heq⟩
    refine ⟨operator, hmem, ?_⟩
    rw [← heq]
    simpa [Catalog.setQualifiers] using eq_unqualified_or key
  · rintro ⟨operator, hmem, rfl | rfl | rfl⟩
    · exact ⟨operator, hmem, unqualified_of_mem hmem⟩
    · exact ⟨operator, hmem, unqualified_append (by decide) operator⟩
    · exact ⟨operator, hmem, unqualified_append (by decide) operator⟩

theorem passes_operatorFindings (place : List Step) (key : Str) (block : Value) :
    Passes (operatorFindings place key block) ↔
      IsOperator key ∧ ∃ members, block = .obj members := by
  -- the definition is opened as a whole; its equations by cases would be costly
  unfold operatorFindings
  simp only [passes_append, passes_findingIf, Problem.severity, reduceCtorEq, imp_false,
    Bool.not_eq_true, Bool.not_eq_false', isKnownOperator_iff, and_congr_right_iff]
  intro _
  cases block <;> simp [Problem.severity]

theorem passes_conditionFindings (place : List Step) (v : Value) :
    Passes (conditionFindings place v) ↔ IsCondition v := by
  cases v with
  | obj operators => simp [conditionFindings, IsCondition, passes_operatorFindings]
  | _ => simp [conditionFindings, IsCondition, Problem.severity]

/-! ### Principals -/

theorem passes_identityFindings (place : List Step) (v : Value) :
    Passes (identityFindings place v) ↔ IsIdentity v := by
  cases v with
  | str identity =>
      by_cases hall : identity = "*"
      · simp [identityFindings, IsIdentity, hall, Problem.severity]
      · simp only [identityFindings, hall, if_false, IsIdentity, false_or]
        -- an account that is none is worth a warning only
        refine (passes_behindLead
          (fun rest => findingIf (!isAccountField (rest.toList.takeWhile (· != ':'))) place
            .awsAccount)
          (P := fun _ => True) ?_ place rfl).trans (by simp [identityLead])
        simp [Problem.severity]
  | _ => simp [identityFindings, IsIdentity, Problem.severity]

theorem passes_serviceFindings (place : List Step) (v : Value) :
    Passes (serviceFindings place v) ↔ IsService v := by
  cases v <;> simp [serviceFindings, IsService, Problem.severity]

theorem passes_listedFindings {check : List Step → Value → List Finding} {P : Value → Prop}
    (h : ∀ place v, Passes (check place v) ↔ P v) (place : List Step) (members : Members)
    (key : Str) : Passes (listedFindings place members key check) ↔
      ∀ v, Given members key v → Each P v :=
  passes_optional fun v => (passes_entryFindings h _ (entries v)).trans forall_mem_entries_iff

theorem passes_principalFindings (place : List Step) (v : Value) :
    Passes (principalFindings place v) ↔ IsPrincipal v := by
  cases v with
  | str s =>
      by_cases hall : s = "*" <;>
        simp [principalFindings, IsPrincipal, hall, Problem.severity]
  | obj members =>
      simp [principalFindings, IsPrincipal, passes_listedFindings passes_identityFindings,
        passes_listedFindings passes_serviceFindings, Problem.severity, Members.keys]
  | _ => simp [principalFindings, IsPrincipal, Problem.severity]

/-! ### Statements -/

theorem allNonempty_iff {p : Point → Bool} {s : Str} :
    allNonempty p s.toList = true ↔ s ≠ "" ∧ ∀ a ∈ s.toList, p a = true := by
  simp [allNonempty, ← Str.toList_inj]

theorem passes_sidFindings (place : List Step) (members : Members) :
    Passes (sidFindings place members) ↔
      ∀ v, List.lookup ("Sid" : Str) members = some v → IsSid v := by
  cases h : List.lookup ("Sid" : Str) members with
  | none => simp [sidFindings, h]
  | some v =>
      cases v with
      | str sid =>
          simp [sidFindings, h, IsSid, allNonempty_iff, Point.isIn_eq_true_iff, Problem.severity]
      | _ => simp [sidFindings, h, IsSid, Problem.severity]

theorem passes_effectFindings (place : List Step) (members : Members) :
    Passes (effectFindings place members) ↔
      List.lookup ("Effect" : Str) members = some (.str "Allow") ∨
        List.lookup ("Effect" : Str) members = some (.str "Deny") := by
  rw [lookup_eq_some_iff_present? (by simp), lookup_eq_some_iff_present? (by simp)]
  cases h : present? members "Effect" with
  | none => simp [effectFindings, h, Problem.severity]
  | some v =>
      cases v with
      | str effect =>
          by_cases hempty : effect = ""
          · simp [effectFindings, h, hempty, Problem.severity]
          · have hknown : effect.isOneOf Catalog.effects = true ↔
                effect = "Allow" ∨ effect = "Deny" := by
              simp [Catalog.effects]
            simp only [effectFindings, h, hempty, if_false, Option.some.injEq, Value.str.injEq,
              ← hknown]
            simp [Problem.severity]
      | _ => simp [effectFindings, h, Problem.severity]

/-- On request a field about principals passes when what it holds does, and otherwise always. -/
theorem passes_principalFieldFindings (inside : Bool) (place : List Step) (members : Members)
    (field : String) : Passes (principalFieldFindings inside place members field) ↔
      (inside = true → ∀ v, Given members field v → IsPrincipal v) := by
  simp only [← present?_eq_some_iff]
  cases h : present? members field with
  | none => simp [principalFieldFindings, h]
  | some v =>
      cases inside with
      | false => simp [principalFieldFindings, h, Problem.severity]
      | true => simp [principalFieldFindings, h, Problem.severity, passes_principalFindings]

theorem passes_choiceFindings {check : List Step → Value → List Finding} {P : Value → Prop}
    (h : ∀ place v, Passes (check place v) ↔ P v) (place : List Step) (members : Members)
    (field negated : String) : Passes (choiceFindings place members field negated check) ↔
      ExactlyOne (OneOrMore P) members field negated := by
  simp only [ExactlyOne, ← present?_eq_some_iff]
  cases hfield : present? members field <;> cases hnegated : present? members negated <;>
    simp [choiceFindings, hfield, hnegated, Problem.severity, passes_listFindings h]

theorem passes_conditionFieldFindings (place : List Step) (members : Members) :
    Passes (conditionFieldFindings place members) ↔
      ∀ v, Given members "Condition" v → IsCondition v :=
  passes_optional (passes_conditionFindings _)

theorem passes_unknownFieldFindings (place : List Step) (members : Members) :
    Passes (unknownFieldFindings place members) := by
  simp [unknownFieldFindings, Problem.severity]

/-- **A statement passes when it is well-formed.** -/
theorem passes_statementFindings (inside : Bool) (place : List Step) (v : Value) :
    Passes (statementFindings inside place v) ↔ IsStatement inside v := by
  cases v with
  | obj members =>
      simp only [statementFindings, passes_append, passes_sidFindings, passes_effectFindings,
        passes_principalFieldFindings, passes_choiceFindings passes_actionFindings,
        passes_choiceFindings passes_resourceFindings, passes_unknownFieldFindings, and_true,
        passes_conditionFieldFindings, IsStatement]
      constructor
      · rintro ⟨⟨⟨⟨⟨⟨hsid, heffect⟩, hprincipal⟩, hnot⟩, haction⟩, hresource⟩, hcondition⟩
        exact ⟨hsid, heffect, haction, hresource, hcondition, hprincipal, hnot⟩
      · intro h
        exact ⟨⟨⟨⟨⟨⟨h.sid, h.effect⟩, h.principal⟩, h.notPrincipal⟩, h.action⟩, h.resource⟩,
          h.condition⟩
  | _ => simp [statementFindings, IsStatement, Problem.severity]

/-! ### Policies -/

theorem passes_versionFindings (members : Members) :
    Passes (versionFindings members) ↔
      List.lookup ("Version" : Str) members = some (.str "2012-10-17") ∨
        List.lookup ("Version" : Str) members = some (.str "2008-10-17") := by
  rw [lookup_eq_some_iff_present? (by simp), lookup_eq_some_iff_present? (by simp)]
  cases h : present? members "Version" with
  | none => simp [versionFindings, h, Problem.severity]
  | some v =>
      cases v with
      | str version =>
          by_cases hempty : version = ""
          · simp [versionFindings, h, hempty, Problem.severity]
          · have hknown : version.isOneOf Catalog.versions = true ↔
                version = "2012-10-17" ∨ version = "2008-10-17" := by
              simp [Catalog.versions, Catalog.currentVersion, Catalog.legacyVersion]
            simp only [versionFindings, h, hempty, if_false, Option.some.injEq, Value.str.injEq,
              ← hknown]
            by_cases hversion : version.isOneOf Catalog.versions = true <;>
              simp [hversion, Problem.severity]
      | _ => simp [versionFindings, h, Problem.severity]

theorem passes_statementsFindings (inside : Bool) (members : Members) :
    Passes (statementsFindings inside members) ↔
      ∃ items, List.lookup ("Statement" : Str) members = some (.arr items) ∧ items ≠ [] ∧
        ∀ v ∈ items, IsStatement inside v := by
  have hlookup : ∀ items, List.lookup ("Statement" : Str) members = some (.arr items) ↔
      present? members "Statement" = some (.arr items) := by
    intro items
    exact lookup_eq_some_iff_present? (by simp)
  simp only [hlookup]
  cases h : present? members "Statement" with
  | none => simp [statementsFindings, h, Problem.severity]
  | some v =>
      cases v with
      | arr items =>
          cases items with
          | nil => simp [statementsFindings, h, Problem.severity]
          | cons v rest =>
              simp [statementsFindings, h, passes_entryFindings (passes_statementFindings inside)]
      | _ => simp [statementsFindings, h, Problem.severity]

theorem passes_idFindings (members : Members) :
    Passes (idFindings members) ↔ ∀ v, Given members "Id" v → ∃ text, v = .str text := by
  simp only [← present?_eq_some_iff]
  cases h : present? members "Id" with
  | none => simp [idFindings, h]
  | some v => cases v <;> simp [idFindings, h, Problem.severity]

/-- **A document passes when it is a well-formed policy.** -/
theorem passes_findings (inside : Bool) (document : Value) :
    Passes (findings inside document) ↔ IsPolicy inside document := by
  cases document with
  | obj members =>
      have hunknown : Passes (unknownRootFindings members) := by
        simp [unknownRootFindings, Problem.severity]
      simp only [findings, passes_append, passes_versionFindings, passes_statementsFindings,
        hunknown, passes_idFindings, and_true, IsPolicy]
      constructor
      · rintro ⟨⟨hversion, hstatements⟩, hid⟩
        exact ⟨hversion, hstatements, hid⟩
      · intro h
        exact ⟨⟨h.version, h.statements⟩, h.id⟩
  | _ => simp [findings, IsPolicy, Problem.severity]

/-- A review is favourable when its findings let the document pass. -/
theorem isValid_review_iff_passes {inside : Bool} {document : Value} :
    (review inside document).isValid = true ↔ Passes (findings inside document) :=
  Verdict.isValid_ofFindings_iff

/-- **Exactly the well-formed policies are accepted**, whether or not principals are looked into. -/
theorem isValid_review_iff_isPolicy (inside : Bool) (document : Value) :
    (review inside document).isValid = true ↔ IsPolicy inside document :=
  isValid_review_iff_passes.trans (passes_findings inside document)

end BucketAccess.Policy
