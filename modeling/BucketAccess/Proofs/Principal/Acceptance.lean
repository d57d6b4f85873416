/-
**Which principals are accepted.**

The shapes of principals are tried in a fixed order, but nearly all of them exclude one another: the
only texts that fit two of them start like a resource name and hold the domain of services.  So each
shape has a condition of its own, and a principal is accepted exactly when the grammar describes it.

Main definitions:

* `BucketAccess.Principal.Passes` — remarks that do not stand in the way of acceptance.

Main results:

* `BucketAccess.Principal.shape_eq_service_iff`, `BucketAccess.Principal.shape_eq_arn_iff` and the
  others like them — **when a text has a shape**;
* `BucketAccess.Principal.passes_arnRemarks_iff` — which resource names are accepted;
* `BucketAccess.Principal.isValid_review_iff_isPrincipal` — **exactly the principals of the grammar
  are accepted**.
-/

import BucketAccess.Principal.Review
import BucketAccess.Proofs.Principal.Grammar

set_option relaxedAutoImplicit false
set_option autoImplicit false

namespace BucketAccess.Principal

open BucketAccess.Text

variable {s : List Char}

/-! ### Names of services -/

/-- The name of a service is recognised by a scan from the left. -/
theorem isServiceName_iff : isServiceName s = true ↔ IsService s := by
  have hdots : ∀ domain ∈ serviceDomains, ∃ rest, domain = '.' :: rest := by
    simp [serviceDomains]
  simp only [isServiceName, Bool.and_eq_true, Bool.not_eq_true', List.isEmpty_eq_false_iff,
    List.contains_iff_mem]
  constructor
  · rintro ⟨hname, hdomain⟩
    refine ⟨s.takeWhile isToken, ?_, hname, fun c hc =>
      List.all_eq_true.1 (List.all_takeWhile (l := s)) c hc⟩
    have hsplit : s = s.takeWhile isToken ++ s.dropWhile isToken :=
      (List.takeWhile_append_dropWhile).symm
    simp only [serviceDomains, List.mem_cons, List.not_mem_nil, or_false] at hdomain
    rcases hdomain with h | h
    · exact .inl (h ▸ hsplit)
    · exact .inr (h ▸ hsplit)
  · rintro ⟨name, hs, hname, htokens⟩
    obtain ⟨domain, hmem, rfl⟩ : ∃ domain ∈ serviceDomains, s = name ++ domain := by
      rcases hs with h | h
      · exact ⟨_, by simp [serviceDomains], h⟩
      · exact ⟨_, by simp [serviceDomains], h⟩
    obtain ⟨rest, rfl⟩ := hdots domain hmem
    have hdot : isToken '.' = false := by decide
    simp [List.takeWhile_append_of_pos htokens, List.dropWhile_append_of_pos htokens, hdot, hname,
      hmem]

theorem IsService.colon_not_mem (h : IsService s) : ':' ∉ s := by
  obtain ⟨name, hs, -, htokens⟩ := h
  have hname : ':' ∉ name := not_mem_of_forall (by decide) htokens
  rcases hs with rfl | rfl <;> simp [hname]

theorem IsService.holdsDomain (h : IsService s) : HoldsDomain s := by
  obtain ⟨name, rfl | rfl, -⟩ := h
  · exact .inl (List.suffix_append _ _).isInfix
  · exact .inr (List.suffix_append _ _).isInfix

theorem HoldsDomain.dot_mem (h : HoldsDomain s) : '.' ∈ s := by
  rcases h with h | h <;> exact h.subset (by decide)

theorem IsService.dot_mem (h : IsService s) : '.' ∈ s :=
  h.holdsDomain.dot_mem

theorem holdsServiceDomain_iff : holdsServiceDomain s = true ↔ HoldsDomain s := by
  simp [holdsServiceDomain, serviceDomains, HoldsDomain, contains_iff]

/-! ### Shapes -/

theorem isCanonicalId_iff :
    isCanonicalId s = true ↔ s.length = 64 ∧ ∀ c ∈ s, isLowerHex c = true := by
  simp [isCanonicalId, canonicalIdLength]

/-- A text with a character that no canonical id has. -/
theorem isCanonicalId_eq_false {c : Char} (hc : isLowerHex c = false) (hmem : c ∈ s) :
    isCanonicalId s = false := by
  rw [← Bool.not_eq_true, isCanonicalId_iff]
  rintro ⟨-, hall⟩
  exact not_mem_of_forall hc hall hmem

/-- A text with a character that neither everyone nor a canonical id has is told apart by the later
tests. -/
theorem shape_of_mem {c : Char} (hstar : c ≠ '*') (hc : isLowerHex c = false) (hmem : c ∈ s) :
    shape s = if holdsServiceDomain s then .service
      else if Arn.lead.isPrefixOf s then .arn
      else if Arn.isAccount s then .account
      else .other := by
  have hempty : s.isEmpty = false := List.isEmpty_eq_false_iff.2 (List.ne_nil_of_mem hmem)
  have hsingle : s ≠ ['*'] := by
    rintro rfl
    exact hstar (List.mem_singleton.1 hmem)
  simp [shape, hempty, hsingle, isCanonicalId_eq_false hc hmem]

/-- A text of more than one character is neither nothing nor everyone. -/
theorem shape_of_long (h : 1 < s.length) :
    shape s = if isCanonicalId s then .canonicalId
      else if holdsServiceDomain s then .service
      else if Arn.lead.isPrefixOf s then .arn
      else if Arn.isAccount s then .account
      else .other := by
  have hempty : s.isEmpty = false := by
    cases s with
    | nil => simp at h
    | cons c rest => rfl
  have hsingle : s ≠ ['*'] := by
    rintro rfl
    simp at h
  simp [shape, hempty, hsingle]

theorem shape_eq_nothing_iff : shape s = .nothing ↔ s = [] := by
  constructor
  · intro h
    unfold shape at h
    split_ifs at h with hempty
    exact List.isEmpty_iff.1 hempty
  · rintro rfl
    rfl

theorem shape_eq_everyone_iff : shape s = .everyone ↔ s = ['*'] := by
  constructor
  · intro h
    unfold shape at h
    split_ifs at h with _ hstar
    exact hstar
  · rintro rfl
    rfl

theorem shape_eq_canonicalId_iff :
    shape s = .canonicalId ↔ s.length = 64 ∧ ∀ c ∈ s, isLowerHex c = true := by
  rw [← isCanonicalId_iff]
  constructor
  · intro h
    unfold shape at h
    split_ifs at h with _ _ hcanonical
    exact hcanonical
  · intro h
    have hlength := (isCanonicalId_iff.1 h).1
    rw [shape_of_long (by omega), if_pos h]

/-- **A text with the domain of services in it has the shape of a service**, whatever else it looks
like. -/
theorem shape_eq_service_iff : shape s = .service ↔ HoldsDomain s := by
  rw [← holdsServiceDomain_iff]
  constructor
  · intro h
    unfold shape at h
    split_ifs at h with _ _ _ hholds
    exact hholds
  · intro h
    have hdot := (holdsServiceDomain_iff.1 h).dot_mem
    rw [shape_of_mem (by decide) (by decide) hdot, if_pos h]

/-- **All other texts that start like a resource name have the shape of one.** -/
theorem shape_eq_arn_iff : shape s = .arn ↔ ¬ HoldsDomain s ∧ Arn.lead.isPrefixOf s = true := by
  rw [← holdsServiceDomain_iff]
  constructor
  · intro h
    unfold shape at h
    split_ifs at h with _ _ _ hholds hlead
    exact ⟨hholds, hlead⟩
  · rintro ⟨hholds, hlead⟩
    rw [shape_of_mem (by decide) (by decide) (Arn.colon_mem_of_lead hlead), if_neg hholds,
      if_pos hlead]

theorem shape_eq_account_iff : shape s = .account ↔ Arn.IsAccount s := by
  rw [← Arn.isAccount_iff]
  constructor
  · intro h
    unfold shape at h
    split_ifs at h with _ _ _ _ _ haccount
    exact haccount
  · intro h
    obtain ⟨hlength, hdigits⟩ := Arn.isAccount_iff.1 h
    have hcanonical : isCanonicalId s = false := by
      rw [← Bool.not_eq_true, isCanonicalId_iff]
      omega
    have hholds : holdsServiceDomain s = false := by
      rw [← Bool.not_eq_true, holdsServiceDomain_iff]
      exact fun hdomain => not_mem_of_forall (by decide) hdigits hdomain.dot_mem
    have hlead : Arn.lead.isPrefixOf s = false := by
      rw [← Bool.not_eq_true]
      exact fun hstart => not_mem_of_forall (by decide) hdigits (Arn.colon_mem_of_lead hstart)
    rw [shape_of_long (by omega)]
    simp [hcanonical, hholds, hlead, h]

/-! ### Remarks -/

/-- Remarks that do not stand in the way of acceptance. -/
def Passes (remarks : List Remark) : Prop :=
  ∀ remark ∈ remarks, remark.severity = .warning

@[simp] theorem passes_nil : Passes [] := by simp [Passes]

@[simp] theorem passes_cons {remark : Remark} {remarks : List Remark} :
    Passes (remark :: remarks) ↔ remark.severity = .warning ∧ Passes remarks := by
  simp [Passes]

@[simp] theorem passes_append {remarks more : List Remark} :
    Passes (remarks ++ more) ↔ Passes remarks ∧ Passes more := by
  simp [Passes, or_imp, forall_and]

@[simp] theorem passes_remarkIf {condition : Bool} {remark : Remark} :
    Passes (remarkIf condition remark) ↔ (condition = true → remark.severity = .warning) := by
  cases condition <;> simp [remarkIf]

theorem passes_ite {c : Prop} [Decidable c] {remarks more : List Remark} :
    Passes (if c then remarks else more) ↔ (c → Passes remarks) ∧ (¬ c → Passes more) := by
  by_cases h : c <;> simp [h]

/-! ### Resource names -/

/-- The own partition is none of the others. -/
theorem IsForeignName.partition_ne {arn : Arn} (h : IsForeignName arn) :
    arn.partition ≠ "ipcld".toList := by
  intro hown
  have hknown := h.wellFormed.partition
  rw [hown] at hknown
  exact absurd hknown (by decide)

theorem passes_ownArnRemarks_iff {arn : Arn} (hpartition : arn.partition = "ipcld".toList) :
    Passes (ownArnRemarks arn) ↔ IsOwnName arn := by
  have hslash : '/' ∈ arn.resource → arn.resource ≠ [] := List.ne_nil_of_mem
  simp only [ownArnRemarks, passes_append, passes_remarkIf, passes_ite, passes_cons, passes_nil,
    Remark.severity, List.isEmpty_iff, bne_iff_ne, Bool.not_eq_true', List.contains_eq_mem,
    decide_eq_false_iff_not, reduceCtorEq, and_true, imp_false, not_not, identityService]
  constructor
  · rintro ⟨⟨hservice, haccount⟩, hsome, hresource⟩
    exact ⟨hpartition, hservice, haccount, hresource hsome⟩
  · intro h
    exact ⟨⟨h.service, h.account⟩, hslash h.resource, fun _ => h.resource⟩

/-- What is said about the service is for information only. -/
theorem passes_serviceRemarks (service : String) : Passes (serviceRemarks service) := by
  simp [serviceRemarks, passes_ite, Remark.severity]

theorem passes_identityAccountRemarks_iff {account : List Char} :
    Passes (identityAccountRemarks account) ↔ Arn.IsAccount account := by
  have hsome : Arn.IsAccount account → account ≠ [] := by
    rintro h rfl
    simpa using h.length
  simp only [identityAccountRemarks, passes_ite, passes_remarkIf, passes_cons, passes_nil,
    Remark.severity, List.isEmpty_iff, Bool.not_eq_true', reduceCtorEq, and_true, imp_false,
    Bool.not_eq_false, Arn.isAccount_iff]
  exact ⟨fun h => h.2 h.1, fun h => ⟨hsome h, fun _ => h⟩⟩

theorem passes_identityResourceRemarks_iff {resource : List Char} :
    Passes (identityResourceRemarks resource) ↔
      resource = "root".toList ∨ '/' ∈ resource := by
  have hsome : resource = "root".toList ∨ '/' ∈ resource → resource ≠ [] := by
    rintro (rfl | h)
    · simp
    · exact List.ne_nil_of_mem h
  simp only [identityResourceRemarks, passes_ite, passes_remarkIf, passes_cons, passes_nil,
    Remark.severity, List.isEmpty_iff, Bool.not_eq_true', reduceCtorEq, and_true, true_and,
    imp_false, List.contains_eq_mem, decide_eq_false_iff_not, not_not, implies_true, wholeAccount]
  constructor
  · rintro ⟨hne, h⟩
    by_cases hroot : resource = "root".toList
    · exact .inl hroot
    · exact .inr (h hne hroot)
  · intro h
    exact ⟨hsome h, fun _ hroot => h.resolve_left hroot⟩

/-- The fields of a well-formed name pass, if those of an identity are all there. -/
theorem passes_fieldRemarks_iff {arn : Arn} (hform : arn.WellFormed) :
    Passes (fieldRemarks arn) ↔ IsForeignName arn := by
  have hknown : Catalog.partitions.contains (String.ofList arn.partition) = true :=
    List.contains_iff_mem.2 hform.partition
  have haccount : Arn.IsAccount arn.account ↔ arn.account ≠ [] := by
    constructor
    · rintro h hnone
      simpa [hnone] using h.length
    · exact hform.account.resolve_left
  simp only [fieldRemarks, passes_append, passes_ite, passes_remarkIf, passes_nil, hknown,
    passes_serviceRemarks, passes_identityAccountRemarks_iff, passes_identityResourceRemarks_iff,
    Remark.severity, Bool.not_true, Bool.false_eq_true, false_implies, implies_true, and_true,
    true_and, haccount]
  constructor
  · intro h
    exact ⟨hform, h⟩
  · intro h
    exact h.identity

/-- A text that starts like a resource name has a resource when it is written out. -/
theorem spells_of_resource_ne_nil (hlead : Arn.lead.isPrefixOf s = true)
    (h : (Arn.ofText s).resource ≠ []) : Arn.Spells s (Arn.ofText s) := by
  refine Arn.spells_ofText hlead ?_
  by_contra hshort
  refine h ?_
  have hnone : (splitOn ':' s).drop 5 = [] := List.drop_eq_nil_of_le (by omega)
  simp [Arn.ofText, hnone, joinWith]

/-- **The resource names that are accepted**: those of an identity of the own partition, and the
well-formed ones of the other partitions. -/
theorem passes_arnRemarks_iff (hlead : Arn.lead.isPrefixOf s = true) :
    Passes (arnRemarks s) ↔ ∃ arn, Arn.Spells s arn ∧ (IsOwnName arn ∨ IsForeignName arn) := by
  have hown : Catalog.ownPartition.toList = "ipcld".toList := rfl
  rw [arnRemarks, hown]
  by_cases hpartition : (Arn.ofText s).partition = "ipcld".toList
  · have hnot : ∀ arn, Arn.Spells s arn → ¬ IsForeignName arn := by
      intro arn hspells h
      rw [hspells.ofText] at hpartition
      exact h.partition_ne hpartition
    rw [if_pos hpartition, passes_ownArnRemarks_iff hpartition]
    constructor
    · intro h
      exact ⟨_, spells_of_resource_ne_nil hlead (List.ne_nil_of_mem h.resource), .inl h⟩
    · rintro ⟨arn, hspells, hown | hname⟩
      · rwa [hspells.ofText]
      · exact absurd hname (hnot arn hspells)
  · have hnot : ∀ arn, Arn.Spells s arn → ¬ IsOwnName arn := by
      intro arn hspells h
      rw [hspells.ofText] at hpartition
      exact hpartition h.partition
    rw [if_neg hpartition]
    cases hscan : Arn.scan? s with
    | none =>
        simp only [Option.isNone_none, if_true, passes_cons, Remark.severity, reduceCtorEq,
          false_and, false_iff]
        rintro ⟨arn, hspells, h | h⟩
        · exact hnot arn hspells h
        · have hfound := Arn.scan?_eq_some_iff.2 ⟨hspells, h.wellFormed⟩
          simp [hscan] at hfound
    | some arn =>
        obtain ⟨hspells, hform⟩ := Arn.scan?_eq_some_iff.1 hscan
        rw [hspells.ofText]
        simp only [Option.isNone_some, Bool.false_eq_true, if_false,
          passes_fieldRemarks_iff hform]
        constructor
        · intro h
          exact ⟨arn, hspells, .inr h⟩
        · rintro ⟨other, hother, h | h⟩
          · exact absurd h (hnot other hother)
          · obtain rfl := hspells.unique hother
            exact h

/-! ### Principals -/

/-- **The remarks on a text pass when the grammar describes it.** -/
theorem passes_remarks_iff : Passes (remarks s) ↔ IsPrincipal s := by
  constructor
  · intro h
    unfold remarks at h
    cases hshape : shape s with
    | nothing => exact .nothing (shape_eq_nothing_iff.1 hshape)
    | everyone => exact .everyone (shape_eq_everyone_iff.1 hshape)
    | canonicalId =>
        obtain ⟨hlength, hdigits⟩ := shape_eq_canonicalId_iff.1 hshape
        exact .canonicalId hlength hdigits
    | service =>
        by_cases hname : isServiceName s = true
        · exact .service (isServiceName_iff.1 hname)
        · simp [hshape, hname, Remark.severity] at h
    | arn =>
        obtain ⟨hplain, hlead⟩ := shape_eq_arn_iff.1 hshape
        rw [hshape] at h
        obtain ⟨arn, hspells, hown | hforeign⟩ := (passes_arnRemarks_iff hlead).1 h
        · exact .own hplain hspells hown
        · exact .foreign hplain hspells hforeign
    | account => exact .account (shape_eq_account_iff.1 hshape)
    | other => simp [hshape, Remark.severity] at h
  · intro h
    have harn : ∀ {arn : Arn}, ¬ HoldsDomain s → Arn.Spells s arn →
        IsOwnName arn ∨ IsForeignName arn → Passes (remarks s) := by
      intro arn hplain hspells hfields
      have hlead := hspells.lead_isPrefixOf
      rw [remarks, shape_eq_arn_iff.2 ⟨hplain, hlead⟩]
      exact (passes_arnRemarks_iff hlead).2 ⟨arn, hspells, hfields⟩
    cases h with
    | nothing hempty => simp [remarks, shape_eq_nothing_iff.2 hempty]
    | everyone hstar => simp [remarks, shape_eq_everyone_iff.2 hstar, Remark.severity]
    | canonicalId hlength hdigits =>
        simp [remarks, shape_eq_canonicalId_iff.2 ⟨hlength, hdigits⟩, Remark.severity]
    | service hname =>
        simp [remarks, shape_eq_service_iff.2 hname.holdsDomain, isServiceName_iff.2 hname,
          Remark.severity]
    | account hnumber => simp [remarks, shape_eq_account_iff.2 hnumber, Remark.severity]
    | own hplain hspells hfields => exact harn hplain hspells (.inl hfields)
    | foreign hplain hspells hfields => exact harn hplain hspells (.inr hfields)

/-- A review is favourable when its remarks pass. -/
theorem isValid_review_iff_passes {principal : String} :
    (review principal).isValid = true ↔ Passes (remarks principal.toList) :=
  Verdict.isValid_ofFindings_iff

theorem isValid_review_iff (s : List Char) :
    (review (String.ofList s)).isValid = true ↔ IsPrincipal s := by
  rw [isValid_review_iff_passes, String.toList_ofList]
  exact passes_remarks_iff

/-- The name of a service is accepted. -/
theorem IsService.isValid_review (h : IsService s) : (review (String.ofList s)).isValid = true :=
  (isValid_review_iff s).2 (.service h)

/-- A principal with a colon is a resource name. -/
theorem IsPrincipal.exists_spells (h : IsPrincipal s) (hcolon : ':' ∈ s) :
    ∃ arn, Arn.Spells s arn ∧ (IsOwnName arn ∨ IsForeignName arn) := by
  cases h with
  | nothing hempty => simp [hempty] at hcolon
  | everyone hstar => simp [hstar] at hcolon
  | canonicalId _ hdigits => exact absurd hcolon (not_mem_of_forall (by decide) hdigits)
  | service hname => exact absurd hcolon hname.colon_not_mem
  | account hnumber => exact absurd hcolon (not_mem_of_forall (by decide) hnumber.digits)
  | own _ hspells hfields => exact ⟨_, hspells, .inl hfields⟩
  | foreign _ hspells hfields => exact ⟨_, hspells, .inr hfields⟩

/-- A principal with a colon does not hold the domain of services. -/
theorem IsPrincipal.not_holdsDomain (h : IsPrincipal s) (hcolon : ':' ∈ s) :
    ¬ HoldsDomain s := by
  cases h with
  | nothing hempty => simp [hempty] at hcolon
  | everyone hstar => simp [hstar] at hcolon
  | canonicalId _ hdigits => exact absurd hcolon (not_mem_of_forall (by decide) hdigits)
  | service hname => exact absurd hcolon hname.colon_not_mem
  | account hnumber => exact absurd hcolon (not_mem_of_forall (by decide) hnumber.digits)
  | own hplain => exact hplain
  | foreign hplain => exact hplain

/-- The fields that a principal is written out with are those of an accepted name. -/
theorem IsPrincipal.fields (h : IsPrincipal s) {arn : Arn} (hspells : Arn.Spells s arn) :
    IsOwnName arn ∨ IsForeignName arn := by
  obtain ⟨other, hother, hfields⟩ := h.exists_spells (by simp [hspells.text])
  obtain rfl := hspells.unique hother
  exact hfields

/-- **Exactly the principals of the grammar are accepted.** -/
theorem isValid_review_iff_isPrincipal (principal : String) :
    (review principal).isValid = true ↔ IsPrincipal principal.toList :=
  isValid_review_iff_passes.trans passes_remarks_iff

end BucketAccess.Principal
