/-
**The pattern of resource names and the fields of a text.**

A resource name is read in two ways.  Its pattern says what it is put together from, and the fields
that the remarks are about come from cutting it at every colon.  The pattern does not say that its
parts hold no colons, but their characters see to it, so the two ways of reading agree: what the
pattern takes for the partition, the service, the region, the account and the resource are the
fields of the text.  Three remarks on fields are therefore never made, because the pattern has
refused the text before: about an unknown partition, about an account without twelve digits, and
about a missing resource of an identity.

Main definitions:

* `BucketAccess.Arn.Matches` — **the pattern**, with the parts that a text is put together from;
* `BucketAccess.Principal.Remark.IsIdle`, `BucketAccess.Principal.NoneIdle` — the remarks that are
  never made, and lists without them.

Main results:

* `BucketAccess.Arn.matches_iff` — a text that matches is its fields, written out, and they are
  well-formed;
* `BucketAccess.Principal.noneIdle_remarks` — **the idle remarks are never made**;
* `BucketAccess.Principal.diverge_message` — no other remark starts like an idle one;
* `BucketAccess.Principal.review_of_not_matches` — a text that does not match is refused as a whole;
* `BucketAccess.Principal.fields_agree_with_pattern` — **the fields are those of the pattern**.
-/

import BucketAccess.Proofs.Principal.Acceptance
import BucketAccess.Proofs.Text.Beginning

set_option relaxedAutoImplicit false
set_option autoImplicit false

namespace BucketAccess

open BucketAccess.Text

/-! ### The pattern -/

namespace Arn

/-- **The pattern of resource names.**  The parts of a text: the word `arn`, one of three
partitions, a service, a region or none, twelve digits or none, and a resource on one line, with
colons between them.  Where else there are colons is not said. -/
structure Matches (s : List Char) (arn : Arn) : Prop where
  text : s = "arn:".toList ++ arn.partition ++ ":".toList ++ arn.service ++ ":".toList ++
    arn.region ++ ":".toList ++ arn.account ++ ":".toList ++ arn.resource
  partition : arn.partition ∈ ["aws".toList, "aws-cn".toList, "aws-us-gov".toList]
  service : arn.service ≠ [] ∧ ∀ c ∈ arn.service, isToken c = true
  region : ∀ c ∈ arn.region, isToken c = true
  account : arn.account.length = 12 ∧ (∀ c ∈ arn.account, isDigit c = true) ∨ arn.account = []
  resource : arn.resource ≠ [] ∧ ∀ c ∈ arn.resource, c ≠ '\n'

variable {s : List Char} {arn : Arn}

/-- **A text that matches is its fields, written out, and they are well-formed.**  No part but the
resource has a character that could be a colon. -/
theorem matches_iff : Matches s arn ↔ Spells s arn ∧ WellFormed arn := by
  have hpartitions : ∀ partition : List Char,
      partition ∈ ["aws".toList, "aws-cn".toList, "aws-us-gov".toList] ↔
        String.ofList partition ∈ ["aws", "aws-cn", "aws-us-gov"] := by
    intro partition
    simp only [List.mem_cons, List.not_mem_nil, or_false, ← String.toList_inj,
      String.toList_ofList]
  have haccount : arn.account.length = 12 ∧ (∀ c ∈ arn.account, isDigit c = true) ↔
      IsAccount arn.account := ⟨fun h => ⟨h.1, h.2⟩, fun h => ⟨h.length, h.digits⟩⟩
  have hline : (∀ c ∈ arn.resource, c ≠ '\n') ↔ '\n' ∉ arn.resource :=
    ⟨fun h hmem => h _ hmem rfl, fun h c hc heq => h (heq ▸ hc)⟩
  have htext : "arn:".toList ++ arn.partition ++ ":".toList ++ arn.service ++ ":".toList ++
      arn.region ++ ":".toList ++ arn.account ++ ":".toList ++ arn.resource =
      "arn".toList ++ ':' :: (arn.partition ++ ':' :: (arn.service ++ ':' ::
        (arn.region ++ ':' :: (arn.account ++ ':' :: arn.resource)))) := by
    simp
  constructor
  · intro h
    have hform : WellFormed arn := ⟨(hpartitions _).1 h.partition, h.service, h.region,
      h.account.symm.imp_right haccount.1, h.resource.imp_right hline.1⟩
    exact ⟨⟨h.text.trans htext, not_mem_of_forall (by decide) hform.isToken_partition,
      not_mem_of_forall (by decide) h.service.2, not_mem_of_forall (by decide) h.region,
      not_mem_of_forall (by decide) hform.isDigit_account⟩, hform⟩
  · rintro ⟨hspells, hform⟩
    exact ⟨hspells.text.trans htext.symm, (hpartitions _).2 hform.partition, hform.service,
      hform.region, hform.account.symm.imp_left haccount.2, hform.resource.imp_right hline.2⟩

/-- The scan from the left finds the parts of the pattern. -/
theorem scan?_eq_some_iff_matches : scan? s = some arn ↔ Matches s arn :=
  scan?_eq_some_iff.trans matches_iff.symm

/-- The parts of the pattern are the fields of the text. -/
theorem Matches.ofText (h : Matches s arn) : Arn.ofText s = arn :=
  (matches_iff.1 h).1.ofText

end Arn

namespace Principal

variable {s : List Char}

/-! ### Idle remarks -/

/-- The remarks on fields that the pattern leaves no occasion for. -/
def Remark.IsIdle : Remark → Prop
  | .unknownPartition _ | .accountForm _ | .resourceMissing => True
  | _ => False

/-- Remarks none of which is idle. -/
def NoneIdle (remarks : List Remark) : Prop :=
  ∀ remark ∈ remarks, ¬ remark.IsIdle

@[simp] theorem noneIdle_nil : NoneIdle [] := by simp [NoneIdle]

@[simp] theorem noneIdle_cons {remark : Remark} {remarks : List Remark} :
    NoneIdle (remark :: remarks) ↔ ¬ remark.IsIdle ∧ NoneIdle remarks := by
  simp [NoneIdle]

@[simp] theorem noneIdle_append {remarks more : List Remark} :
    NoneIdle (remarks ++ more) ↔ NoneIdle remarks ∧ NoneIdle more := by
  simp [NoneIdle, or_imp, forall_and]

@[simp] theorem noneIdle_remarkIf {condition : Bool} {remark : Remark} :
    NoneIdle (remarkIf condition remark) ↔ (condition = true → ¬ remark.IsIdle) := by
  cases condition <;> simp [remarkIf]

theorem noneIdle_ite {c : Prop} [Decidable c] {remarks more : List Remark} :
    NoneIdle (if c then remarks else more) ↔ (c → NoneIdle remarks) ∧ (¬ c → NoneIdle more) := by
  by_cases h : c <;> simp [h]

theorem noneIdle_ownArnRemarks (arn : Arn) : NoneIdle (ownArnRemarks arn) := by
  simp [ownArnRemarks, noneIdle_ite, Remark.IsIdle]

/-- **Well-formed fields give no occasion for an idle remark.** -/
theorem noneIdle_fieldRemarks {arn : Arn} (hform : arn.WellFormed) :
    NoneIdle (fieldRemarks arn) := by
  have hpartition : String.ofList arn.partition ∈ Catalog.partitions := hform.partition
  have haccount : NoneIdle (identityAccountRemarks arn.account) := by
    rcases hform.account with hnone | haccount
    · simp [identityAccountRemarks, hnone, Remark.IsIdle]
    · simp [identityAccountRemarks, Arn.isAccount_iff.2 haccount, noneIdle_ite, Remark.IsIdle]
  have hresource : NoneIdle (identityResourceRemarks arn.resource) := by
    simp [identityResourceRemarks, hform.resource.1, noneIdle_ite, Remark.IsIdle]
  simp [fieldRemarks, serviceRemarks, hpartition, haccount, hresource, noneIdle_ite,
    Remark.IsIdle]

/-- **The idle remarks are never made.** -/
theorem noneIdle_remarks (s : List Char) : NoneIdle (remarks s) := by
  have harn : NoneIdle (arnRemarks s) := by
    rw [arnRemarks]
    split
    · exact noneIdle_ownArnRemarks _
    · cases hscan : Arn.scan? s with
      | none => simp [Remark.IsIdle]
      | some arn =>
          obtain ⟨hspells, hform⟩ := Arn.scan?_eq_some_iff.1 hscan
          simpa [hspells.ofText] using noneIdle_fieldRemarks hform
  unfold remarks
  cases shape s with
  | arn => exact harn
  | service => simp [noneIdle_ite, Remark.IsIdle]
  | _ => simp [Remark.IsIdle]

/-! ### Idle messages -/

/-- How the idle remarks start. -/
def idleLeads : List String :=
  ["Invalid partition ", "Account ID must be exactly 12 digits, got: ",
    "IAM ARN requires a resource "]

/-- **No other remark starts like an idle one.**  Where a remark holds words of the text, it has
diverged before them. -/
theorem diverge_message {remark : Remark} (h : ¬ remark.IsIdle) {lead : String}
    (hlead : lead ∈ idleLeads) : Diverge lead.toList remark.message.toList := by
  simp only [idleLeads, List.mem_cons, List.not_mem_nil, or_false] at hlead
  cases remark with
  | unknownPartition _ | accountForm _ | resourceMissing => exact absurd trivial h
  | everyone | serviceForm | accountMissing | resourceForm | identityRegion | storageAccount
  | storageRegion =>
      rcases hlead with rfl | rfl | rfl <;> exact diverge_ofList (by decide)
  | bareAccount | unrecognised | arnForm | ownService | ownAccountMissing | ownResourceMissing =>
      rcases hlead with rfl | rfl | rfl <;> exact (diverge_ofList (by decide)).append _
  | canonicalId | ownResourceForm | unusualService _ | unusualType _ =>
      rcases hlead with rfl | rfl | rfl <;>
        exact ((diverge_ofList (by decide)).append _).append _
  | serviceName =>
      rcases hlead with rfl | rfl | rfl <;>
        exact (((diverge_ofList (by decide)).append _).append _).append _
  | foreignService service =>
      rcases hlead with rfl | rfl | rfl <;>
        exact (((((diverge_ofList (by decide)).append _).append _).append _).append _).append _

/-- No message of a review starts like an idle remark. -/
theorem not_prefix_of_mem_review {principal message lead : String} (hlead : lead ∈ idleLeads)
    (h : message ∈ (review principal).errors ++ (review principal).warnings) :
    ¬ lead.toList <+: message.toList := by
  have hremark : ∃ remark ∈ remarks principal.toList, remark.message = message := by
    simp only [review, Verdict.ofFindings, Verdict.messages, List.mem_append, List.mem_map,
      List.mem_filter] at h
    rcases h with ⟨remark, ⟨hmem, -⟩, hmessage⟩ | ⟨remark, ⟨hmem, -⟩, hmessage⟩
    · exact ⟨remark, hmem, hmessage⟩
    · exact ⟨remark, hmem, hmessage⟩
  obtain ⟨remark, hmem, rfl⟩ := hremark
  exact (diverge_message (noneIdle_remarks _ remark hmem) hlead).1

/-! ### The two ways of reading -/

/-- What is told about a text that does not match. -/
def formMessage : String :=
  "Invalid ARN format. Expected: arn:aws:service:region:account-id:resource " ++
    "or arn:ipcld:iam::CanonicalID:resource"

/-- **A text that does not match is refused as a whole.**  Nothing else is said about it. -/
theorem review_of_not_matches {principal : String}
    (hlead : "arn:".toList <+: principal.toList)
    (hpartition : (splitOn ':' principal.toList)[1]? ≠ some "ipcld".toList)
    (hplain : ¬ HoldsDomain principal.toList)
    (hnone : ∀ arn, ¬ Arn.Matches principal.toList arn) :
    review principal = ⟨[formMessage], []⟩ := by
  have hshape : shape principal.toList = .arn :=
    shape_eq_arn_iff.2 ⟨hplain, List.isPrefixOf_iff_prefix.2 hlead⟩
  have hforeign : (Arn.ofText principal.toList).partition ≠ Catalog.ownPartition.toList := by
    intro hown
    simp only [Arn.ofText, List.getD_eq_getElem?_getD] at hown
    cases hfield : (splitOn ':' principal.toList)[1]? with
    | none => exact absurd (hfield ▸ hown) (by decide)
    | some field =>
        rw [hfield, Option.getD_some] at hown
        exact hpartition (hfield.trans (congrArg some hown))
  have hscan : Arn.scan? principal.toList = none := by
    rw [Option.eq_none_iff_forall_ne_some]
    exact fun arn hfound => hnone arn (Arn.scan?_eq_some_iff_matches.1 hfound)
  have hremarks : remarks principal.toList = [.arnForm] := by
    rw [remarks, hshape]
    simp [arnRemarks, hforeign, hscan]
  rw [review, hremarks]
  decide +kernel

/-- **The fields of a text are those of the pattern.**  A text that starts like a resource name of
a foreign partition and is no service either matches the pattern, with its fields as the parts, or
is refused as a whole; and no text whatever is told about in the words that are kept for fields
which the pattern would not let through. -/
theorem fields_agree_with_pattern :
    (∀ s arn, Arn.scan? s = some arn ↔ Arn.Matches s arn) ∧
      (∀ principal : String, "arn:".toList <+: principal.toList →
        (splitOn ':' principal.toList)[1]? ≠ some "ipcld".toList →
        ¬ HoldsDomain principal.toList →
          ((∀ arn, ¬ Arn.Matches principal.toList arn) →
            review principal = ⟨[formMessage], []⟩) ∧
          ∀ arn, Arn.Matches principal.toList arn → Arn.ofText principal.toList = arn) ∧
      ∀ principal : String,
        ∀ message ∈ (review principal).errors ++ (review principal).warnings,
          ∀ lead ∈ idleLeads, ¬ lead.toList <+: message.toList := by
  refine ⟨fun s arn => Arn.scan?_eq_some_iff_matches, ?_, ?_⟩
  · intro principal hlead hpartition hplain
    exact ⟨review_of_not_matches hlead hpartition hplain, fun arn hmatches => hmatches.ofText⟩
  · intro principal message hmessage lead hlead
    exact not_prefix_of_mem_review hlead hmessage

/-- A name with more colons, and slashes, in its resource. -/
def colonName : String := "arn:aws:s3:eu-1::a::b/c:"

/-- The parts of that name. -/
def colonParts : Arn :=
  ⟨"aws".toList, "s3".toList, "eu-1".toList, [], "a::b/c:".toList⟩

/-- The first five colons divide the fields, and the others are left in the resource. -/
theorem fields_agree_colonName :
    "arn:".toList <+: colonName.toList ∧
      (splitOn ':' colonName.toList)[1]? ≠ some "ipcld".toList ∧
      ¬ HoldsDomain colonName.toList ∧ Arn.Matches colonName.toList colonParts ∧
      Arn.ofText colonName.toList = colonParts := by
  have hlead : "arn:".toList <+: colonName.toList := by decide
  have hpartition : (splitOn ':' colonName.toList)[1]? ≠ some "ipcld".toList := by decide
  have hplain : ¬ HoldsDomain colonName.toList := by
    rw [← holdsServiceDomain_iff]
    decide
  have hservice : ∀ c ∈ colonParts.service, isToken c = true := List.all_eq_true.1 (by decide)
  have hregion : ∀ c ∈ colonParts.region, isToken c = true := List.all_eq_true.1 (by decide)
  have hline : '\n' ∉ colonParts.resource := by decide
  have hmatches : Arn.Matches colonName.toList colonParts :=
    ⟨by decide, by decide, ⟨by decide, hservice⟩, hregion, .inr rfl,
      ⟨by decide, fun c hc heq => hline (heq ▸ hc)⟩⟩
  exact ⟨hlead, hpartition, hplain, hmatches,
    (fields_agree_with_pattern.2.1 colonName hlead hpartition hplain).2 colonParts hmatches⟩

end Principal

end BucketAccess
