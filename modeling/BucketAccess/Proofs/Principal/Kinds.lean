/-
**The kinds of advice.**

Which kinds of advice can be given on a field is settled by the field: there is no word of success
before the resource has been reached, and an error only on the service of the own partition and on
accounts of the others.  Each error has a condition on what has been typed of the field, and the
conditions are what a completed field could not start with.

Main definitions:

* `BucketAccess.Principal.Gives`, `BucketAccess.Principal.Within` — advice of a kind, and advice of
  certain kinds only;
* `BucketAccess.Principal.StartsAccount` — what an account may start with.

Main results:

* `BucketAccess.Principal.kind_ownServiceAdvice`, `BucketAccess.Principal.kind_accountAdvice` —
  **the two fields on which there are errors**, and
  `BucketAccess.Principal.gives_error_slotAdvice_iff`;
* `BucketAccess.Principal.within_slotAdvice` — no word of success before the resource;
* `BucketAccess.Principal.gives_error_otherAdvice_iff` — errors on other texts;
* `BucketAccess.Principal.Gives.of_adviceOn` — where the advice on a text comes from.
-/

import BucketAccess.Principal.Advice
import BucketAccess.Proofs.Arn

set_option relaxedAutoImplicit false
set_option autoImplicit false

namespace BucketAccess.Principal

open BucketAccess.Text

/-! ### Kinds -/

/-- Advice of a kind. -/
def Gives (kind : Advice.Kind) (advice : Option Advice) : Prop :=
  ∃ a, advice = some a ∧ a.kind = kind

/-- Advice of certain kinds only, if there is any. -/
def Within (kinds : List Advice.Kind) (advice : Option Advice) : Prop :=
  ∀ a, advice = some a → a.kind ∈ kinds

section Kinds

variable {kind : Advice.Kind} {kinds : List Advice.Kind} {advice other : Option Advice}

@[simp] theorem not_gives_none : ¬ Gives kind none := by simp [Gives]

@[simp] theorem gives_some {a : Advice} : Gives kind (some a) ↔ a.kind = kind := by simp [Gives]

theorem gives_ite {c : Prop} [Decidable c] : Gives kind (if c then advice else other) ↔
    (c ∧ Gives kind advice) ∨ (¬ c ∧ Gives kind other) := by
  by_cases h : c <;> simp [h]

theorem Gives.of_or (h : Gives kind (advice.or other)) : Gives kind advice ∨ Gives kind other := by
  cases advice with
  | none => exact .inr h
  | some a => exact .inl h

theorem Gives.or (h : Gives kind advice) (other : Option Advice) :
    Gives kind (advice.or other) := by
  obtain ⟨a, rfl, hkind⟩ := h
  exact ⟨a, rfl, hkind⟩

@[simp] theorem within_none : Within kinds none := by simp [Within]

@[simp] theorem within_some {a : Advice} : Within kinds (some a) ↔ a.kind ∈ kinds := by
  simp [Within]

theorem within_ite {c : Prop} [Decidable c] : Within kinds (if c then advice else other) ↔
    (c → Within kinds advice) ∧ (¬ c → Within kinds other) := by
  by_cases h : c <;> simp [h]

theorem Within.mono {more : List Advice.Kind} (h : Within kinds advice) (hmore : kinds ⊆ more) :
    Within more advice :=
  fun a ha => hmore (h a ha)

theorem Within.not_gives (h : Within kinds advice) (hkind : kind ∉ kinds) :
    ¬ Gives kind advice := by
  rintro ⟨a, ha, rfl⟩
  exact hkind (h a ha)

end Kinds

/-! ### What a field may start with -/

/-- What an account may start with: digits, and no more of them than an account has. -/
def StartsAccount (s : List Char) : Prop :=
  (∀ c ∈ s, isDigit c = true) ∧ s.length ≤ 12

instance (s : List Char) : Decidable (StartsAccount s) :=
  decidable_of_iff (s.all isDigit = true ∧ s.length ≤ 12) (by simp [StartsAccount])

theorem startsAccount_nil : StartsAccount [] := by decide

/-- The beginnings of accounts are what accounts may start with. -/
theorem startsAccount_of_isPrefix {token account : List Char} (h : token <+: account)
    (haccount : Arn.IsAccount account) : StartsAccount token :=
  ⟨fun c hc => haccount.digits c (h.subset hc), haccount.length ▸ h.length_le⟩

/-! ### Fields -/

theorem Cursor.isOwn_iff {cur : Cursor} :
    cur.isOwn = true ↔ cur.partition = Catalog.ownPartition.toList := by
  simp [Cursor.isOwn]

theorem Cursor.isOwn_eq_false_iff {cur : Cursor} :
    cur.isOwn = false ↔ cur.partition ≠ Catalog.ownPartition.toList := by
  rw [← Bool.not_eq_true, ne_eq, Cursor.isOwn_iff]

theorem within_partitionAdvice (cur : Cursor) : Within [.hint] (partitionAdvice cur) := by
  simp [partitionAdvice, within_ite]

/-- On the service of the own partition there is an error as soon as it is not the beginning of the
only one there is. -/
theorem kind_ownServiceAdvice (token : List Char) : (ownServiceAdvice token).kind =
    if token <+: identityService then .hint else .error := by
  unfold ownServiceAdvice
  split_ifs <;> simp_all

theorem within_foreignServiceAdvice (partition token : List Char) :
    Within [.hint, .warning] (foreignServiceAdvice partition token) := by
  simp [foreignServiceAdvice, within_ite]

theorem kind_regionAdvice (cur : Cursor) : (regionAdvice cur).kind = .hint := by
  unfold regionAdvice
  split <;> rfl

theorem kind_accountProgress (account : List Char) : (accountProgress account).kind =
    if account ≠ [] ∧ StartsAccount account then .hint else .error := by
  have hrow : account ≠ [] ∧ StartsAccount account ↔
      allNonempty isDigit account = true ∧ account.length ≤ 12 := by
    simp [allNonempty, StartsAccount, and_assoc]
  rw [accountProgress, Arn.accountLength, apply_ite Advice.kind, apply_ite Advice.kind,
    apply_ite Advice.kind]
  cases hdigits : allNonempty isDigit account with
  | false => simp [hrow, hdigits]
  | true =>
      simp only [hrow, hdigits, true_and, Bool.not_true, Bool.false_eq_true, if_false]
      split_ifs with hfew _ hmany
      all_goals first | rfl | omega

/-- On the account of another partition there is an error as soon as no account starts like it. -/
theorem kind_accountAdvice (cur : Cursor) : (accountAdvice cur).kind =
    if cur.isOwn = true ∨ StartsAccount cur.token then .hint else .error := by
  unfold accountAdvice
  cases hown : cur.isOwn <;> cases htoken : cur.token.isEmpty
  · have hsome : cur.token ≠ [] := List.isEmpty_eq_false_iff.1 htoken
    simp [kind_accountProgress, hsome]
  · rw [List.isEmpty_iff] at htoken
    simp [htoken, StartsAccount]
  · simp
  · simp

theorem within_ownResourceAdvice (cur : Cursor) :
    Within [.hint, .success] (ownResourceAdvice cur) := by
  simp only [ownResourceAdvice]
  cases ownTypes.lookup (String.ofList (resourceType cur.token)) <;>
    simp only [within_ite, within_some, within_none, List.mem_cons, true_or, or_true,
      implies_true, and_self]

theorem within_identityAdvice (cur : Cursor) : Within [.hint, .success] (identityAdvice cur) := by
  simp only [identityAdvice]
  cases identityTypes.lookup (String.ofList (resourceType cur.token)) <;>
    simp only [within_ite, within_some, within_none, List.mem_cons, true_or, or_true,
      implies_true, and_self]

theorem within_resourceAdvice (cur : Cursor) :
    Within [.hint, .success] (resourceAdvice cur) := by
  have hhint : ∀ message, Within [.hint, .success] (some ⟨.hint, message⟩) := by
    intro message
    simp
  unfold resourceAdvice
  split
  · exact hhint _
  · exact within_ownResourceAdvice cur
  · exact within_ite.2 ⟨fun _ => hhint _, fun _ => hhint _⟩
  · exact within_ite.2 ⟨fun _ => within_identityAdvice cur, fun _ => within_none⟩

/-- **There is no word of success before the resource has been reached.** -/
theorem within_slotAdvice {slot : Slot} (h : slot ≠ .resource) (cur : Cursor) :
    Within [.hint, .warning, .error] (slotAdvice slot cur) := by
  cases slot with
  | partition => exact (within_partitionAdvice cur).mono (by simp)
  | service =>
      have hforeign := (within_foreignServiceAdvice cur.partition cur.token).mono
        (by simp : _ ⊆ [.hint, .warning, .error])
      have hown : (ownServiceAdvice cur.token).kind ∈ [Advice.Kind.hint, .warning, .error] := by
        rw [kind_ownServiceAdvice]
        split_ifs <;> decide
      exact within_ite.2 ⟨fun _ => within_some.2 hown, fun _ => hforeign⟩
  | region => simp [slotAdvice, kind_regionAdvice]
  | account =>
      simp only [slotAdvice, within_some, kind_accountAdvice]
      split_ifs <;> decide
  | resource => exact absurd rfl h

/-- **The errors on fields**: a service of the own partition, or an account of another one, that
cannot be completed. -/
theorem gives_error_slotAdvice_iff {slot : Slot} {cur : Cursor} :
    Gives .error (slotAdvice slot cur) ↔
      (slot = .service ∧ cur.isOwn = true ∧ ¬ cur.token <+: identityService) ∨
        (slot = .account ∧ cur.isOwn = false ∧ ¬ StartsAccount cur.token) := by
  cases slot with
  | partition => simpa [slotAdvice] using (within_partitionAdvice cur).not_gives (by decide)
  | service =>
      have hforeign := (within_foreignServiceAdvice cur.partition cur.token).not_gives
        (by decide : Advice.Kind.error ∉ _)
      cases hown : cur.isOwn <;> simp [slotAdvice, serviceAdvice, hown, hforeign,
        kind_ownServiceAdvice]
  | region => simp [slotAdvice, kind_regionAdvice]
  | account => cases hown : cur.isOwn <;> simp [slotAdvice, kind_accountAdvice, hown]
  | resource => simpa [slotAdvice] using (within_resourceAdvice cur).not_gives (by decide)

/-! ### Other texts -/

theorem within_serviceNameAdvice (s : List Char) :
    Within [.hint, .success] (serviceNameAdvice s) := by
  simp only [serviceNameAdvice, within_ite, within_some, within_none, List.mem_cons, true_or,
    or_true, implies_true, and_self]

/-- Digits are not taken for the name of a service. -/
theorem serviceNameAdvice_of_digits {s : List Char} (h : ∀ c ∈ s, isDigit c = true) :
    serviceNameAdvice s = none := by
  have hdot : '.' ∉ s := not_mem_of_forall (by decide) h
  have hword : contains domainWord s = false := by
    rw [← Bool.not_eq_true, contains_iff]
    intro hheld
    have hletter : 'a' ∉ s := not_mem_of_forall (by decide) h
    exact hletter (hheld.subset (by decide))
  simp [serviceNameAdvice, hdot, hword]

theorem within_accountIdAdvice (s : List Char) :
    Within [.hint, .warning, .error] (accountIdAdvice s) := by
  have hprogress : (accountProgress s).kind ∈ [Advice.Kind.hint, .warning, .error] := by
    rw [kind_accountProgress]
    split_ifs <;> decide
  simp [accountIdAdvice, within_ite, hprogress]

/-- **The errors on numbers of accounts**: more digits than an account has. -/
theorem gives_error_accountIdAdvice_iff {s : List Char} : Gives .error (accountIdAdvice s) ↔
    (∀ c ∈ s, isDigit c = true) ∧ 12 < s.length := by
  have hrow : allNonempty isDigit s = true ↔ s ≠ [] ∧ ∀ c ∈ s, isDigit c = true := by
    simp [allNonempty]
  have hsome : 12 < s.length → s ≠ [] := by
    rintro hlength rfl
    simp at hlength
  unfold accountIdAdvice
  split_ifs with hother hwhole
  · rw [Bool.not_eq_true', ← Bool.not_eq_true, hrow] at hother
    refine iff_of_false not_gives_none ?_
    rintro ⟨hdigits, hlength⟩
    exact hother ⟨hsome hlength, hdigits⟩
  · rw [Arn.accountLength] at hwhole
    refine iff_of_false (by simp) ?_
    omega
  · obtain ⟨hne, hdigits⟩ := hrow.1 (by simpa using hother)
    have hstart : StartsAccount s ↔ s.length ≤ 12 := and_iff_right hdigits
    rw [gives_some, kind_accountProgress, and_iff_right hdigits]
    simp [hne, hstart]

/-- **The errors on texts that are no resource names.** -/
theorem gives_error_otherAdvice_iff {s : List Char} : Gives .error (otherAdvice s) ↔
    (∀ c ∈ s, isDigit c = true) ∧ 12 < s.length := by
  rw [← gives_error_accountIdAdvice_iff, otherAdvice]
  cases hgiven : serviceNameAdvice s with
  | none =>
      have hstar : s = ['*'] → ¬ Gives .error (accountIdAdvice s) := by
        rintro rfl
        rw [gives_error_accountIdAdvice_iff]
        simp
      simp only [gives_ite, gives_some, reduceCtorEq, and_false, false_or, and_iff_right_iff_imp]
      exact fun herror hs => hstar hs herror
  | some a =>
      have hservice := (within_serviceNameAdvice s).not_gives (by decide : Advice.Kind.error ∉ _)
      rw [hgiven] at hservice
      refine iff_of_false hservice ?_
      rw [gives_error_accountIdAdvice_iff]
      rintro ⟨hdigits, -⟩
      simp [serviceNameAdvice_of_digits hdigits] at hgiven

/-! ### All texts -/

section Texts

variable {s : List Char}

theorem adviceOn_of_lead (h : Arn.lead.isPrefixOf s = true) :
    adviceOn s = (arnAdvice s).or (otherAdvice s) := by
  have hempty : s.isEmpty = false :=
    List.isEmpty_eq_false_iff.2 (List.ne_nil_of_mem (Arn.colon_mem_of_lead h))
  simp [adviceOn, hempty, h]

/-- A text with a character of its own and no colon is not taken for the start of a resource
name. -/
theorem adviceOn_of_not_lead {c : Char} (hc : c ∈ s) (hown : c ∉ Arn.lead) (hcolon : ':' ∉ s) :
    adviceOn s = otherAdvice s := by
  have hempty : s.isEmpty = false := List.isEmpty_eq_false_iff.2 (List.ne_nil_of_mem hc)
  have hlead : Arn.lead.isPrefixOf s = false := by
    rw [← Bool.not_eq_true]
    exact fun hstart => hcolon (Arn.colon_mem_of_lead hstart)
  have hbeginning : s.isPrefixOf Arn.lead = false := by
    rw [← Bool.not_eq_true, List.isPrefixOf_iff_prefix]
    exact fun hstart => hown (hstart.subset hc)
  simp [adviceOn, hempty, hlead, hbeginning]

/-- Advice other than a hint is on a resource name that has been begun, or on another text. -/
theorem Gives.of_adviceOn {kind : Advice.Kind} (hkind : kind ≠ .hint)
    (h : Gives kind (adviceOn s)) :
    (Arn.lead.isPrefixOf s = true ∧ Gives kind (arnAdvice s)) ∨ Gives kind (otherAdvice s) := by
  simp only [adviceOn, gives_ite, gives_some, Bool.or_eq_true] at h
  rcases h with ⟨-, h⟩ | ⟨-, ⟨hstart, h⟩ | ⟨-, h⟩⟩
  · exact absurd h.symm hkind
  · rcases h.of_or with harn | hother
    · have hcolon : ':' ∈ s := by
        by_contra hno
        rw [arnAdvice, if_pos (by simpa using hno), gives_some] at harn
        exact hkind harn.symm
      exact .inl ⟨hstart.elim id fun hbeginning => Arn.lead_isPrefixOf_of_colon hbeginning hcolon,
        harn⟩
    · exact .inr hother
  · exact .inr h

end Texts

end BucketAccess.Principal
