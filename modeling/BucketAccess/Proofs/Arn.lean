/-
**How resource names are spelled.**

A text that starts like a resource name and has enough colons is the word `arn` and five fields, of
which only the last one may hold colons.  So its fields are known as soon as it is written out field
by field, and every such text can be written out.

Main definitions:

* `BucketAccess.Arn.Spells` — a text that is the fields of a resource name, written out;
* `BucketAccess.Arn.IsAccount`, `BucketAccess.Arn.WellFormed` — accounts, and the fields of a
  well-formed name of a known partition.

Main results:

* `BucketAccess.Arn.Spells.ofText` — **the fields of a text that is written out**;
* `BucketAccess.Arn.spells_ofText` — every text with enough colons can be written out;
* `BucketAccess.Arn.scan?_eq_some_iff` — **the scan from the left finds exactly the well-formed
  names**, with the fields that they are written out with.
-/

import BucketAccess.Arn
import BucketAccess.Proofs.Text.Fields
import Mathlib.Data.Option.Basic

set_option relaxedAutoImplicit false
set_option autoImplicit false

namespace BucketAccess.Arn

open BucketAccess.Text

/-- A text that is the fields of a resource name, written out.  Only the last field may hold
colons. -/
structure Spells (s : List Char) (arn : Arn) : Prop where
  text : s = "arn".toList ++ ':' :: (arn.partition ++ ':' :: (arn.service ++ ':' ::
    (arn.region ++ ':' :: (arn.account ++ ':' :: arn.resource))))
  partition_single : ':' ∉ arn.partition
  service_single : ':' ∉ arn.service
  region_single : ':' ∉ arn.region
  account_single : ':' ∉ arn.account

variable {s : List Char} {arn : Arn}

theorem Spells.lead_isPrefixOf (h : Spells s arn) : lead.isPrefixOf s = true := by
  rw [h.text, List.isPrefixOf_iff_prefix]
  exact ⟨_, rfl⟩

theorem Spells.splitOn (h : Spells s arn) : Text.splitOn ':' s =
    "arn".toList :: arn.partition :: arn.service :: arn.region :: arn.account ::
      Text.splitOn ':' arn.resource := by
  have hword : ':' ∉ "arn".toList := by decide
  rw [h.text, splitOn_append hword, splitOn_append h.partition_single,
    splitOn_append h.service_single, splitOn_append h.region_single,
    splitOn_append h.account_single]

/-- **The fields of a text that is written out** are those that it is written out with. -/
theorem Spells.ofText (h : Spells s arn) : Arn.ofText s = arn := by
  simp [Arn.ofText, h.splitOn, joinWith_splitOn]

/-- A text is written out with the same fields only. -/
theorem Spells.unique {other : Arn} (h : Spells s arn) (hother : Spells s other) : other = arn :=
  hother.ofText.symm.trans h.ofText

/-- A text that is written out has at least six fields. -/
theorem Spells.six_le_length (h : Spells s arn) : 6 ≤ (Text.splitOn ':' s).length := by
  have hpos : 0 < (Text.splitOn ':' arn.resource).length :=
    List.length_pos_iff.2 (splitOn_ne_nil ':' arn.resource)
  simp only [h.splitOn, List.length_cons]
  omega

theorem colon_mem_of_lead (h : lead.isPrefixOf s = true) : ':' ∈ s :=
  (List.isPrefixOf_iff_prefix.1 h).subset (by decide)

/-- The only beginning of the leading word with a colon is all of it. -/
theorem lead_isPrefixOf_of_colon (h : s.isPrefixOf lead = true) (hcolon : ':' ∈ s) :
    lead.isPrefixOf s = true := by
  have hbeginnings : ∀ n ≤ 4, ':' ∈ lead.take n → lead.isPrefixOf (lead.take n) = true := by decide
  have hstart := List.isPrefixOf_iff_prefix.1 h
  have htake : s = lead.take s.length := List.prefix_iff_eq_take.1 hstart
  rw [htake] at hcolon ⊢
  exact hbeginnings s.length hstart.length_le hcolon

/-- A beginning of a text that starts like a resource name starts like one once it has a colon. -/
theorem lead_isPrefixOf_of_prefix {q : List Char} (h : lead.isPrefixOf s = true)
    (hq : q <+: s) (hcolon : ':' ∈ q) : lead.isPrefixOf q = true := by
  rcases List.prefix_or_prefix_of_prefix (List.isPrefixOf_iff_prefix.1 h) hq with hlong | hshort
  · exact List.isPrefixOf_iff_prefix.2 hlong
  · exact lead_isPrefixOf_of_colon (List.isPrefixOf_iff_prefix.2 hshort) hcolon

/-- A text with more than one field is its first field and a text with the others. -/
theorem splitOn_eq_cons_of_two_le {s : List Char} (h : 2 ≤ (Text.splitOn ':' s).length) :
    ∃ field rest, s = field ++ ':' :: rest ∧ ':' ∉ field ∧
      (Text.splitOn ':' s).length = (Text.splitOn ':' rest).length + 1 := by
  have hmem : ':' ∈ s := by
    by_contra hno
    simp [splitOn_of_not_mem hno] at h
  obtain ⟨heq, hfield⟩ := eq_append_cons_of_mem hmem
  exact ⟨_, _, heq, hfield, by rw [splitOn_of_mem hmem, List.length_cons]⟩

/-- Every text with enough colons that starts like a resource name can be written out. -/
theorem spells_ofText (hlead : lead.isPrefixOf s = true)
    (hlength : 6 ≤ (Text.splitOn ':' s).length) : Spells s (Arn.ofText s) := by
  obtain ⟨rest, rfl⟩ := List.isPrefixOf_iff_prefix.1 hlead
  have hword : (Text.splitOn ':' (lead ++ rest)).length = (Text.splitOn ':' rest).length + 1 := by
    simp [lead, Text.splitOn]
  obtain ⟨partition, rest₁, rfl, hpartition, hlength₁⟩ :=
    splitOn_eq_cons_of_two_le (s := rest) (by omega)
  obtain ⟨service, rest₂, rfl, hservice, hlength₂⟩ :=
    splitOn_eq_cons_of_two_le (s := rest₁) (by omega)
  obtain ⟨region, rest₃, rfl, hregion, hlength₃⟩ :=
    splitOn_eq_cons_of_two_le (s := rest₂) (by omega)
  obtain ⟨account, resource, rfl, haccount, -⟩ :=
    splitOn_eq_cons_of_two_le (s := rest₃) (by omega)
  have hspells : Spells (lead ++ (partition ++ ':' :: (service ++ ':' :: (region ++ ':' ::
      (account ++ ':' :: resource))))) ⟨partition, service, region, account, resource⟩ :=
    ⟨rfl, hpartition, hservice, hregion, haccount⟩
  rw [hspells.ofText]
  exact hspells

/-! ### Well-formed names -/

/-- An account: twelve digits. -/
structure IsAccount (s : List Char) : Prop where
  length : s.length = 12
  digits : ∀ c ∈ s, isDigit c = true

theorem isAccount_iff {s : List Char} : isAccount s = true ↔ IsAccount s := by
  simp only [isAccount, digitsOfLength, accountLength, Bool.and_eq_true, beq_iff_eq,
    List.all_eq_true]
  exact ⟨fun h => ⟨h.1, h.2⟩, fun h => ⟨h.length, h.digits⟩⟩

/-- The fields of a well-formed name of a known partition. -/
structure WellFormed (arn : Arn) : Prop where
  partition : String.ofList arn.partition ∈ ["aws", "aws-cn", "aws-us-gov"]
  service : arn.service ≠ [] ∧ ∀ c ∈ arn.service, isToken c = true
  region : ∀ c ∈ arn.region, isToken c = true
  account : arn.account = [] ∨ IsAccount arn.account
  resource : arn.resource ≠ [] ∧ '\n' ∉ arn.resource

theorem WellFormed.isToken_partition (h : WellFormed arn) :
    ∀ c ∈ arn.partition, isToken c = true := by
  have hletters : ∀ p ∈ ["aws", "aws-cn", "aws-us-gov"], p.toList.all isToken = true := by decide
  simpa using hletters _ h.partition

theorem WellFormed.isDigit_account (h : WellFormed arn) : ∀ c ∈ arn.account, isDigit c = true := by
  rcases h.account with hnone | haccount
  · simp [hnone]
  · exact haccount.digits

/-- **The scan from the left finds exactly the well-formed names.** -/
theorem scan?_eq_some_iff : scan? s = some arn ↔ Spells s arn ∧ WellFormed arn := by
  have htoken : isToken ':' = false := by decide
  have hdigit : isDigit ':' = false := by decide
  have hknown : ∀ partition : List Char,
      Catalog.partitions.contains (String.ofList partition) = true ↔
        String.ofList partition ∈ ["aws", "aws-cn", "aws-us-gov"] := by
    intro partition
    exact List.contains_iff_mem
  simp only [scan?, Option.bind_eq_bind, Option.bind_eq_some_iff, dropLead?_eq_some_iff,
    Prod.exists, takeField?_eq_some_iff htoken, takeField?_eq_some_iff hdigit,
    Option.guard_eq_some', exists_const, hknown, isAccount_iff, Option.some.injEq]
  constructor
  · rintro ⟨_, rfl, partition, _, ⟨rfl, hpartition⟩, hpartition', service, _, ⟨rfl, hservice⟩,
      hservice', region, _, ⟨rfl, hregion⟩, account, resource, ⟨rfl, haccount⟩, haccount',
      hresource, rfl⟩
    exact ⟨⟨rfl, not_mem_of_forall htoken hpartition, not_mem_of_forall htoken hservice,
        not_mem_of_forall htoken hregion, not_mem_of_forall hdigit haccount⟩,
      ⟨hpartition', ⟨hservice', hservice⟩, hregion, haccount', hresource⟩⟩
  · rintro ⟨hspells, hform⟩
    exact ⟨_, hspells.text, arn.partition, _, ⟨rfl, hform.isToken_partition⟩, hform.partition,
      arn.service, _, ⟨rfl, hform.service.2⟩, hform.service.1, arn.region, _,
      ⟨rfl, hform.region⟩, arn.account, arn.resource, ⟨rfl, hform.isDigit_account⟩,
      hform.account, hform.resource, rfl⟩

end BucketAccess.Arn
