/-
**Complete principals.**

Somebody who types a principal is told of success once it is complete: the name of a service, or the
resource name of an identity whose type and name are there.  Advice looks at one field at a time and
the verdict at the whole text; success means that both are content, so it is never shown for a text
that is refused, and never withheld from a complete one that is accepted.

Main definitions:

* `BucketAccess.Principal.HasTypedName` — resources with a type and a name;
* `BucketAccess.Principal.IsComplete` — **complete principals**;
* `BucketAccess.Principal.Succeeds` — advice that is a word of success.

Main results:

* `BucketAccess.Principal.succeeds_resourceAdvice_iff`,
  `BucketAccess.Principal.succeeds_otherAdvice_iff` — where advice is a word of success;
* `BucketAccess.Principal.account_of_isValid` — an accepted identity has an account;
* `BucketAccess.Principal.advise_success_iff` — **success is shown exactly for complete principals
  that are accepted**.
-/

import BucketAccess.Proofs.Principal.Acceptance
import BucketAccess.Proofs.Principal.Kinds

set_option relaxedAutoImplicit false
set_option autoImplicit false

namespace BucketAccess.Principal

open BucketAccess.Text

/-! ### Complete principals -/

/-- A resource that starts with one of some types, a slash and a name; more may follow. -/
def HasTypedName (types : List String) (resource : List Char) : Prop :=
  ∃ type ∈ types, ∃ c rest, c ≠ '/' ∧ resource = type.toList ++ '/' :: c :: rest

/-- A principal that needs nothing more. -/
inductive IsComplete (s : List Char) : Prop where
  | service (h : IsService s)
  /-- An identity of the own partition: a user or a policy. -/
  | own {arn : Arn} (spells : Arn.Spells s arn) (iam : arn.service = "iam".toList)
      (partition : arn.partition = "ipcld".toList)
      (name : HasTypedName ["user", "policy"] arn.resource)
  /-- An identity of another partition: the whole account, a user, a role or a group. -/
  | foreign {arn : Arn} (spells : Arn.Spells s arn) (iam : arn.service = "iam".toList)
      (partition : arn.partition ≠ "ipcld".toList)
      (name : arn.resource = "root".toList ∨ HasTypedName ["user", "role", "group"] arn.resource)

/-- A type and a name, as the parts of a resource show them. -/
theorem hasTypedName_iff {types : List String} (htypes : ∀ t ∈ types, '/' ∉ t.toList)
    {resource : List Char} : HasTypedName types resource ↔
      '/' ∈ resource ∧ String.ofList (resourceType resource) ∈ types ∧
        resourceName resource ≠ [] := by
  constructor
  · rintro ⟨type, hmem, c, rest, hc, rfl⟩
    have htype : resourceType (type.toList ++ '/' :: c :: rest) = type.toList :=
      beforeFirst_append_cons (htypes type hmem) _
    have hname : resourceName (type.toList ++ '/' :: c :: rest) = beforeFirst '/' (c :: rest) :=
      congrArg (beforeFirst '/') (behindFirst_append_cons (htypes type hmem) _)
    rw [htype, hname]
    simp [beforeFirst, hc, hmem]
  · rintro ⟨hslash, hmem, hname⟩
    obtain ⟨heq, -⟩ := eq_append_cons_of_mem hslash
    have hnonempty : beforeFirst '/' (behindFirst '/' resource) ≠ [] := hname
    cases hrest : behindFirst '/' resource with
    | nil => simp [hrest, beforeFirst] at hnonempty
    | cons c rest =>
        refine ⟨_, hmem, c, rest, ?_, ?_⟩
        · rintro rfl
          simp [hrest, beforeFirst] at hnonempty
        · rw [String.toList_ofList, ← hrest]
          exact heq

/-- A resource with a type and a name has a slash. -/
theorem HasTypedName.slash_mem {types : List String} {resource : List Char}
    (h : HasTypedName types resource) : '/' ∈ resource := by
  obtain ⟨type, -, c, rest, -, rfl⟩ := h
  simp

/-! ### Words of success -/

/-- Advice that is a word of success. -/
def Succeeds (advice : Option Advice) : Prop :=
  ∃ a, advice = some a ∧ a.kind = .success

@[simp] theorem not_succeeds_none : ¬ Succeeds none :=
  not_gives_none

@[simp] theorem succeeds_some {a : Advice} : Succeeds (some a) ↔ a.kind = .success :=
  gives_some

theorem succeeds_ite {c : Prop} [Decidable c] {advice other : Option Advice} :
    Succeeds (if c then advice else other) ↔ (c ∧ Succeeds advice) ∨ (¬ c ∧ Succeeds other) :=
  gives_ite

theorem Succeeds.or {advice : Option Advice} (h : Succeeds advice) (other : Option Advice) :
    Succeeds (advice.or other) :=
  Gives.or h other

/-! ### Resources that have been begun -/

/-- A type is found in a table when it is listed there. -/
theorem lookup_cases (table : List (String × String)) (type : String) :
    (type ∈ table.map Prod.fst ∧ ∃ examples, table.lookup type = some examples) ∨
      (type ∉ table.map Prod.fst ∧ table.lookup type = none) := by
  cases hlookup : table.lookup type with
  | none =>
      refine .inr ⟨fun hmem => ?_, rfl⟩
      obtain ⟨row, hrow, rfl⟩ := List.mem_map.1 hmem
      simpa using List.lookup_eq_none_iff.1 hlookup row hrow
  | some examples =>
      obtain ⟨before, behind, rfl, -⟩ := List.lookup_eq_some_iff.1 hlookup
      exact .inl ⟨by simp, examples, rfl⟩

theorem succeeds_ownResourceAdvice_iff (cur : Cursor) : Succeeds (ownResourceAdvice cur) ↔
    cur.service = identityService ∧ cur.account ≠ [] ∧
      HasTypedName ["user", "policy"] cur.token := by
  have hslash : (!cur.token.contains '/') = true ↔ '/' ∉ cur.token := by simp
  rw [hasTypedName_iff (by decide), ownResourceAdvice]
  rcases lookup_cases ownTypes (String.ofList (resourceType cur.token)) with
    ⟨hmem, examples, hlookup⟩ | ⟨hno, hlookup⟩
  · have hlisted : String.ofList (resourceType cur.token) ∈ ["user", "policy"] := hmem
    simp only [hslash, succeeds_ite, succeeds_some, not_succeeds_none, hlookup, hlisted,
      reduceCtorEq, List.isEmpty_iff]
    grind
  · have hunlisted : String.ofList (resourceType cur.token) ∉ ["user", "policy"] := hno
    simp only [hslash, succeeds_ite, succeeds_some, not_succeeds_none, hlookup, hunlisted,
      reduceCtorEq]
    grind

theorem succeeds_identityAdvice_iff (cur : Cursor) : Succeeds (identityAdvice cur) ↔
    Arn.isAccount cur.account = true ∧ (cur.token = wholeAccount ∨
      HasTypedName ["user", "role", "group"] cur.token) := by
  have hslash : (!cur.token.contains '/') = true ↔ '/' ∉ cur.token := by simp
  have hwhole : '/' ∉ wholeAccount := by decide
  rw [hasTypedName_iff (by decide), identityAdvice]
  rcases lookup_cases identityTypes (String.ofList (resourceType cur.token)) with
    ⟨hmem, examples, hlookup⟩ | ⟨hno, hlookup⟩
  · have hlisted : String.ofList (resourceType cur.token) ∈ ["user", "role", "group"] := hmem
    simp only [hslash, succeeds_ite, succeeds_some, not_succeeds_none, hlookup, hlisted,
      reduceCtorEq, List.isEmpty_iff]
    grind
  · have hunlisted : String.ofList (resourceType cur.token) ∉ ["user", "role", "group"] := hno
    simp only [hslash, succeeds_ite, succeeds_some, not_succeeds_none, hlookup, hunlisted,
      reduceCtorEq]
    grind

/-- **Where advice on a resource is a word of success**: an identity with an account, a type and a
name. -/
theorem succeeds_resourceAdvice_iff (cur : Cursor) : Succeeds (resourceAdvice cur) ↔
    cur.service = identityService ∧
      ((cur.partition = Catalog.ownPartition.toList ∧ cur.account ≠ [] ∧
          HasTypedName ["user", "policy"] cur.token) ∨
        (cur.partition ≠ Catalog.ownPartition.toList ∧ Arn.isAccount cur.account = true ∧
          (cur.token = wholeAccount ∨ HasTypedName ["user", "role", "group"] cur.token))) := by
  have hnothing : ∀ types, cur.token = [] → ¬ HasTypedName types cur.token := by
    rintro types htoken ⟨type, -, c, rest, -, h⟩
    simp [htoken] at h
  have hwhole : cur.token = [] → cur.token ≠ wholeAccount := by
    intro htoken
    rw [htoken]
    decide
  simp only [ne_eq, ← Cursor.isOwn_iff]
  unfold resourceAdvice
  cases hpartition : cur.isOwn <;> cases htoken : cur.token.isEmpty
  · simp only [succeeds_ite, not_succeeds_none, succeeds_identityAdvice_iff]
    grind
  · rw [List.isEmpty_iff] at htoken
    simp only [succeeds_ite, succeeds_some, reduceCtorEq, hnothing _ htoken, hwhole htoken]
    grind
  · simp only [succeeds_ownResourceAdvice_iff]
    grind
  · rw [List.isEmpty_iff] at htoken
    simp only [succeeds_some, reduceCtorEq, hnothing _ htoken]
    grind

/-! ### Resource names -/

/-- The field that is being typed is the resource when there are enough colons. -/
theorem slot_eq_resource_iff (s : List Char) :
    (cursor s).1 = .resource ↔ 6 ≤ (splitOn ':' s).length := by
  have hslot : ∀ n, Slot.ofFieldCount n = .resource ↔ 6 ≤ n := by
    intro n
    match n with
    | 0 | 1 | 2 | 3 | 4 | 5 => simp [Slot.ofFieldCount]
    | n + 6 => simp [Slot.ofFieldCount]
  exact hslot _

theorem cursor_of_spells {s : List Char} {arn : Arn} (h : Arn.Spells s arn) :
    cursor s = (.resource, ⟨arn.partition, arn.service, arn.account, arn.resource⟩) := by
  have hslot : Slot.ofFieldCount (splitOn ':' s).length = .resource :=
    (slot_eq_resource_iff s).2 h.six_le_length
  simp [cursor, hslot, h.ofText]

/-- Advice on a field is held back only where the whole text would be refused. -/
theorem succeeds_arnAdvice_iff (s : List Char) : Succeeds (arnAdvice s) ↔
    ':' ∈ s ∧ (review (String.ofList s)).isValid = true ∧
      Succeeds (slotAdvice (cursor s).1 (cursor s).2) := by
  have hheld : ∀ advice : Option Advice, Succeeds (advice.bind (holdBack s)) ↔
      (review (String.ofList s)).isValid = true ∧ Succeeds advice := by
    rintro (_ | a)
    · simp
    · cases hvalid : (review (String.ofList s)).isValid <;>
        simp [holdBack, succeeds_ite, hvalid]
  rw [arnAdvice, succeeds_ite, hheld]
  simp

/-- Success on a resource name: it is written out, and both the advice on the resource and the
verdict are content. -/
theorem succeeds_arnAdvice_of_spells {s : List Char} {arn : Arn} (h : Arn.Spells s arn) :
    Succeeds (arnAdvice s) ↔ (review (String.ofList s)).isValid = true ∧
      Succeeds (resourceAdvice ⟨arn.partition, arn.service, arn.account, arn.resource⟩) := by
  have hcolon : ':' ∈ s := by simp [h.text]
  rw [succeeds_arnAdvice_iff, cursor_of_spells h]
  simp [hcolon, slotAdvice]

theorem exists_spells_of_succeeds {s : List Char} (h : Succeeds (arnAdvice s))
    (hlead : Arn.lead.isPrefixOf s = true) : ∃ arn, Arn.Spells s arn := by
  refine ⟨_, Arn.spells_ofText hlead ((slot_eq_resource_iff s).1 ?_)⟩
  by_contra hslot
  exact (within_slotAdvice hslot _).not_gives (by decide) ((succeeds_arnAdvice_iff s).1 h).2.2

/-! ### Names of services -/

theorem IsService.exists_suffix {s : List Char} (h : IsService s) :
    ∃ domain ∈ serviceDomains, domain <:+ s := by
  obtain ⟨name, rfl | rfl, -⟩ := h
  · exact ⟨_, by simp [serviceDomains], name, rfl⟩
  · exact ⟨_, by simp [serviceDomains], name, rfl⟩

theorem succeeds_serviceNameAdvice_iff (s : List Char) :
    Succeeds (serviceNameAdvice s) ↔ IsService s := by
  simp only [serviceNameAdvice, succeeds_ite, succeeds_some, not_succeeds_none, reduceCtorEq,
    isServiceName_iff]
  constructor
  · grind
  · intro h
    obtain ⟨domain, hmem, hsuffix⟩ := h.exists_suffix
    have hends : serviceDomains.any (·.isSuffixOf s) = true :=
      List.any_eq_true.2 ⟨domain, hmem, List.isSuffixOf_iff_suffix.2 hsuffix⟩
    simp [h, h.dot_mem, hends]

/-- Among the texts that are no resource names only the names of services succeed. -/
theorem succeeds_otherAdvice_iff (s : List Char) : Succeeds (otherAdvice s) ↔ IsService s := by
  rw [← succeeds_serviceNameAdvice_iff, otherAdvice]
  cases serviceNameAdvice s with
  | some a => rfl
  | none =>
      have hnumber : ¬ Succeeds (accountIdAdvice s) :=
        (within_accountIdAdvice s).not_gives (by decide)
      simp [succeeds_ite, hnumber]

/-! ### Acceptance -/

/-- **An accepted identity has an account**, of twelve digits outside the own partition. -/
theorem account_of_isValid {s : List Char} {arn : Arn} (hspells : Arn.Spells s arn)
    (hiam : arn.service = identityService) (h : (review (String.ofList s)).isValid = true) :
    (arn.partition = Catalog.ownPartition.toList → arn.account ≠ []) ∧
      (arn.partition ≠ Catalog.ownPartition.toList → Arn.isAccount arn.account = true) := by
  rcases ((isValid_review_iff s).1 h).fields hspells with hown | hforeign
  · exact ⟨fun _ => hown.account, fun hpartition => absurd hown.partition hpartition⟩
  · obtain ⟨haccount, -⟩ := hforeign.identity hiam
    exact ⟨fun hpartition => absurd hpartition hforeign.partition_ne,
      fun _ => Arn.isAccount_iff.2 (hforeign.wellFormed.account.resolve_left haccount)⟩

/-! ### Success -/

/-- Success on a resource name is for a complete identity that is accepted. -/
theorem succeeds_arnAdvice_iff_isComplete {s : List Char} {arn : Arn} (h : Arn.Spells s arn) :
    Succeeds (arnAdvice s) ↔ (review (String.ofList s)).isValid = true ∧ IsComplete s := by
  rw [succeeds_arnAdvice_of_spells h, and_congr_right_iff]
  intro hvalid
  rw [succeeds_resourceAdvice_iff]
  constructor
  · rintro ⟨hiam, ⟨hown, -, hname⟩ | ⟨hforeign, -, hname⟩⟩
    · exact .own h hiam hown hname
    · exact .foreign h hiam hforeign hname
  · intro hcomplete
    cases hcomplete with
    | service hservice => exact absurd (by simp [h.text]) hservice.colon_not_mem
    | own spells iam partition name =>
        obtain rfl := h.unique spells
        exact ⟨iam, .inl ⟨partition, (account_of_isValid h iam hvalid).1 partition, name⟩⟩
    | foreign spells iam partition name =>
        obtain rfl := h.unique spells
        exact ⟨iam, .inr ⟨partition, (account_of_isValid h iam hvalid).2 partition, name⟩⟩

theorem succeeds_adviceOn {s : List Char} (h : Succeeds (adviceOn s)) :
    (review (String.ofList s)).isValid = true ∧ IsComplete s := by
  rcases Gives.of_adviceOn (by decide) h with ⟨hlead, harn⟩ | hother
  · obtain ⟨arn, hspells⟩ := exists_spells_of_succeeds harn hlead
    exact (succeeds_arnAdvice_iff_isComplete hspells).1 harn
  · have hservice := (succeeds_otherAdvice_iff s).1 hother
    exact ⟨hservice.isValid_review, .service hservice⟩

/-- The name of a service is not taken for the start of a resource name. -/
theorem adviceOn_of_isService {s : List Char} (h : IsService s) : adviceOn s = otherAdvice s :=
  adviceOn_of_not_lead h.dot_mem (by decide) h.colon_not_mem

theorem adviceOn_of_spells {s : List Char} {arn : Arn} (h : Arn.Spells s arn) :
    adviceOn s = (arnAdvice s).or (otherAdvice s) :=
  adviceOn_of_lead h.lead_isPrefixOf

/-- **Success is shown exactly for complete principals that are accepted.** -/
theorem advise_success_iff (principal : String) :
    (∃ a, advise principal = some a ∧ a.kind = .success) ↔
      (review principal).isValid = true ∧ IsComplete principal.toList := by
  have htext : review principal = review (String.ofList principal.toList) := by
    rw [String.ofList_toList]
  rw [htext]
  constructor
  · exact succeeds_adviceOn
  · rintro ⟨hvalid, hcomplete⟩
    have hspelled : ∀ {arn : Arn}, Arn.Spells principal.toList arn →
        Succeeds (adviceOn principal.toList) := by
      intro arn hspells
      rw [adviceOn_of_spells hspells]
      exact ((succeeds_arnAdvice_iff_isComplete hspells).2 ⟨hvalid, hcomplete⟩).or _
    cases hcomplete with
    | service hservice =>
        have hsucceeds := (succeeds_otherAdvice_iff _).2 hservice
        rw [← adviceOn_of_isService hservice] at hsucceeds
        exact hsucceeds
    | own spells => exact hspelled spells
    | foreign spells => exact hspelled spells

end BucketAccess.Principal
