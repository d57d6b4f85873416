/-
**Identities, written out.**

An identity is written with its partition, its account, its type and its name.  The name may be any
text on one line, so it may hold slashes, colons and periods of its own.  Nothing is said about an
identity whose fields are right, with one exception: where the domain of services stands in the
name, the whole text is taken for the name of a service, since this is asked before anything else,
and as that it is refused.

Main definitions:

* `BucketAccess.Principal.Identity` — the parts of an identity, and `Identity.text`, with the parts
  written out.

Main results:

* `BucketAccess.Principal.holdsDomain_append_iff` — what stands in front of the domain of services;
* `BucketAccess.Principal.fieldRemarks_identity` — there is nothing to say about the fields;
* `BucketAccess.Principal.review_identity` — **which identities are accepted without a word**.
-/

import BucketAccess.Proofs.Principal.Acceptance

set_option relaxedAutoImplicit false
set_option autoImplicit false

namespace BucketAccess.Principal

open BucketAccess.Text

/-! ### The domain of services -/

/-- A text that starts with a certain character occurs behind a front without it, or not at all. -/
theorem cons_infix_append_iff {c : Char} {front : List Char} (h : c ∉ front) (w s : List Char) :
    c :: w <:+: front ++ s ↔ c :: w <:+: s := by
  induction front with
  | nil => rfl
  | cons d rest ih =>
      obtain ⟨hd, hrest⟩ := not_or.1 (List.mem_cons.not.1 h)
      rw [List.cons_append, List.infix_cons_iff, List.cons_prefix_cons, ih hrest]
      exact or_iff_right fun hstart => hd hstart.1

/-- **The domain of services stands behind a front without periods**, if it stands anywhere. -/
theorem holdsDomain_append_iff {front : List Char} (h : '.' ∉ front) (s : List Char) :
    HoldsDomain (front ++ s) ↔ HoldsDomain s :=
  or_congr (cons_infix_append_iff h _ s) (cons_infix_append_iff h _ s)

/-! ### Identities -/

/-- The parts of an identity of a known partition. -/
structure Identity where
  /-- Whose cloud it is in. -/
  partition : String
  /-- The number of its account. -/
  account : String
  /-- Its type. -/
  type : String
  /-- Its name, which may be a path. -/
  name : String
  partition_known : partition ∈ Catalog.partitions
  account_number : Arn.IsAccount account.toList
  type_known : type ∈ Catalog.identityTypes
  name_ne_empty : name ≠ ""
  name_line : '\n' ∉ name.toList

namespace Identity

/-- What stands in front of the name of an identity. -/
def front (i : Identity) : String :=
  "arn:" ++ i.partition ++ ":iam::" ++ i.account ++ ":" ++ i.type ++ "/"

/-- An identity, written out. -/
def text (i : Identity) : String :=
  i.front ++ i.name

/-- The fields of an identity. -/
def arn (i : Identity) : Arn where
  partition := i.partition.toList
  service := identityService
  region := []
  account := i.account.toList
  resource := i.type.toList ++ '/' :: i.name.toList

variable (i : Identity)

theorem toList_text : i.text.toList = i.front.toList ++ i.name.toList :=
  String.toList_append

/-- The types of identities are words of letters and hyphens. -/
theorem isToken_type : ∀ c ∈ i.type.toList, isToken c = true := by
  have hall : ∀ type ∈ Catalog.identityTypes, type.toList.all isToken = true := by decide +kernel
  exact List.all_eq_true.1 (hall _ i.type_known)

theorem slash_not_mem_type : '/' ∉ i.type.toList :=
  not_mem_of_forall (by decide) i.isToken_type

/-- The fields of an identity are well-formed. -/
theorem wellFormed_arn : i.arn.WellFormed where
  partition := by
    rw [arn, String.ofList_toList]
    exact i.partition_known
  service := by
    have hservice : identityService ≠ [] ∧ identityService.all isToken = true := by decide
    exact ⟨hservice.1, List.all_eq_true.1 hservice.2⟩
  region := by simp [arn]
  account := .inr i.account_number
  resource := by
    have hline : '\n' ∉ i.type.toList := not_mem_of_forall (by decide) i.isToken_type
    simp [arn, hline, i.name_line]

/-- Neither the known words nor the digits of an account have a period. -/
theorem period_not_mem_front : '.' ∉ i.front.toList := by
  have hpartition : '.' ∉ i.partition.toList :=
    not_mem_of_forall (by decide) i.wellFormed_arn.isToken_partition
  have haccount : '.' ∉ i.account.toList := not_mem_of_forall (by decide) i.account_number.digits
  have htype : '.' ∉ i.type.toList := not_mem_of_forall (by decide) i.isToken_type
  simp [front, hpartition, haccount, htype]

/-- The text of an identity is its fields, written out. -/
theorem spells_text : Arn.Spells i.text.toList i.arn where
  text := by simp [toList_text, front, arn, identityService]
  partition_single := not_mem_of_forall (by decide) i.wellFormed_arn.isToken_partition
  service_single := not_mem_of_forall (by decide) i.wellFormed_arn.service.2
  region_single := by simp [arn]
  account_single := not_mem_of_forall (by decide) i.account_number.digits

end Identity

/-! ### Remarks -/

/-- Nothing is said about a resource with a known type and a name. -/
theorem identityResourceRemarks_append {type : String} (htype : type ∈ Catalog.identityTypes)
    (hslash : '/' ∉ type.toList) (name : List Char) :
    identityResourceRemarks (type.toList ++ '/' :: name) = [] := by
  have hfound : resourceType (type.toList ++ '/' :: name) = type.toList :=
    beforeFirst_append_cons hslash name
  have hwhole : type.toList ++ '/' :: name ≠ wholeAccount := by
    intro heq
    have hmem : '/' ∈ wholeAccount := by simp [← heq]
    exact absurd hmem (by decide)
  simp [identityResourceRemarks, hfound, hwhole, htype, remarkIf]

/-- **There is nothing to say about the fields of an identity.** -/
theorem fieldRemarks_identity (i : Identity) : fieldRemarks i.arn = [] := by
  have hservice : serviceRemarks (String.ofList identityService) = [] := by decide
  have haccount : identityAccountRemarks i.account.toList = [] := by
    have hnonempty : i.account.toList ≠ [] := by
      intro hnone
      simpa [hnone] using i.account_number.length
    simp [identityAccountRemarks, hnonempty, Arn.isAccount_iff.2 i.account_number, remarkIf]
  have hresource := identityResourceRemarks_append i.type_known i.slash_not_mem_type i.name.toList
  have hstorage : identityService ≠ storageService := by decide
  simp [fieldRemarks, Identity.arn, i.partition_known, hservice, haccount, hresource, hstorage,
    remarkIf]

/-- An identity is taken for the name of a service where its name holds the domain of services. -/
theorem holdsDomain_text_iff (i : Identity) :
    HoldsDomain i.text.toList ↔ HoldsDomain i.name.toList := by
  rw [i.toList_text, holdsDomain_append_iff i.period_not_mem_front]

theorem remarks_of_not_holdsDomain {i : Identity} (h : ¬ HoldsDomain i.name.toList) :
    remarks i.text.toList = [] := by
  have hshape : shape i.text.toList = .arn :=
    shape_eq_arn_iff.2 ⟨mt (holdsDomain_text_iff i).1 h, i.spells_text.lead_isPrefixOf⟩
  have hforeign : i.arn.partition ≠ Catalog.ownPartition.toList := by
    have hall : ∀ partition ∈ Catalog.partitions,
        partition.toList ≠ Catalog.ownPartition.toList := by decide +kernel
    exact hall _ i.partition_known
  have hscan : Arn.scan? i.text.toList = some i.arn :=
    Arn.scan?_eq_some_iff.2 ⟨i.spells_text, i.wellFormed_arn⟩
  rw [remarks, hshape]
  simp [arnRemarks, i.spells_text.ofText, hforeign, hscan, fieldRemarks_identity]

/-- With its colons an identity is not the name of a service. -/
theorem remarks_of_holdsDomain {i : Identity} (h : HoldsDomain i.name.toList) :
    remarks i.text.toList = [.serviceForm] := by
  have hname : isServiceName i.text.toList = false := by
    rw [← Bool.not_eq_true, isServiceName_iff]
    exact fun hservice => hservice.colon_not_mem (by simp [i.spells_text.text])
  rw [remarks, shape_eq_service_iff.2 ((holdsDomain_text_iff i).2 h)]
  simp [hname]

/-! ### Verdicts -/

/-- What is told about a text that holds the domain of services and is not the name of one. -/
def serviceFormMessage : String :=
  "Service principal format should be: service-name.amazonaws.com"

/-- **An identity is accepted without a word** unless its name holds the domain of services, and
then it is refused for not being the name of a service. -/
theorem review_identity (i : Identity) :
    (review i.text = ⟨[], []⟩ ↔ ¬ HoldsDomain i.name.toList) ∧
      (review i.text = ⟨[serviceFormMessage], []⟩ ↔ HoldsDomain i.name.toList) := by
  have hclean : ¬ HoldsDomain i.name.toList → review i.text = ⟨[], []⟩ := by
    intro h
    rw [review, remarks_of_not_holdsDomain h]
    rfl
  have hrefused : HoldsDomain i.name.toList → review i.text = ⟨[serviceFormMessage], []⟩ := by
    intro h
    rw [review, remarks_of_holdsDomain h]
    rfl
  have hne : (⟨[], []⟩ : Verdict String) ≠ ⟨[serviceFormMessage], []⟩ := by simp
  refine ⟨⟨fun hempty h => ?_, hclean⟩, ⟨fun hservice => ?_, hrefused⟩⟩
  · exact hne (hempty.symm.trans (hrefused h))
  · by_contra h
    exact hne ((hclean h).symm.trans hservice)

/-- A role that a service has made for itself, with the name of the service in its path. -/
def serviceRole : Identity where
  partition := "aws"
  account := "123456789012"
  type := "role"
  name := "aws-service-role/elasticbeanstalk.amazonaws.com/AWSServiceRoleForElasticBeanstalk"
  partition_known := by decide
  account_number := ⟨by decide, List.all_eq_true.1 (by decide)⟩
  type_known := by decide
  name_ne_empty := by decide
  name_line := by decide

/-- The role is refused. -/
theorem not_isValid_serviceRole :
    serviceRole.text = "arn:aws:iam::123456789012:role/aws-service-role/" ++
        "elasticbeanstalk.amazonaws.com/AWSServiceRoleForElasticBeanstalk" ∧
      (review serviceRole.text).isValid = false := by
  have hholds : HoldsDomain serviceRole.name.toList :=
    holdsServiceDomain_iff.1 (by decide)
  refine ⟨by decide, ?_⟩
  rw [review, remarks_of_holdsDomain hholds]
  rfl

end BucketAccess.Principal
