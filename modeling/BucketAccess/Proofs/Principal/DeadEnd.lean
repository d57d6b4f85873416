/-
**Errors while a principal is typed.**

An error on a resource name that has been begun is final: the field that it is about is no beginning
of any field that would be accepted there, the fields before it cannot change any more, and so
nothing that is typed behind it makes the name acceptable.  Of other texts, rows of digits are
answered with an error when they are longer than the number of an account.  There the advice
forgets that the canonical id of an account may be made of digits alone: this is the one shape of
text on which advice and verdict contradict each other.

Main definitions:

* `BucketAccess.Principal.IsDeadEnd` — a resource name that has been begun and cannot be completed.

Main results:

* `BucketAccess.Principal.IsDeadEnd.not_isPrincipal_append` — **a dead end stays one**;
* `BucketAccess.Principal.gives_error_adviceOn_iff` — **which texts are answered with an error**;
* `BucketAccess.Principal.not_isValid_append_of_error` — nothing makes a resource name acceptable
  that has been answered with an error;
* `BucketAccess.Principal.error_and_isValid_iff` — **advice and verdict contradict each other
  exactly on canonical ids made of digits**.
-/

import BucketAccess.Proofs.Principal.Acceptance
import BucketAccess.Proofs.Principal.Kinds
import Mathlib.Data.List.Basic

set_option relaxedAutoImplicit false
set_option autoImplicit false

namespace BucketAccess.Principal

open BucketAccess.Text

variable {s : List Char}

/-! ### Dead ends -/

/-- A resource name that has been begun and cannot be completed, by the fields there are so far. -/
inductive IsDeadEnd (s : List Char) : Prop where
  /-- In the own partition there is one service only. -/
  | service {token : List Char} (fields : splitOn ':' s = ["arn".toList, "ipcld".toList, token])
      (wrong : ¬ token <+: "iam".toList)
  /-- In the other partitions an account is made of twelve digits. -/
  | account {partition service region token : List Char}
      (fields : splitOn ':' s = ["arn".toList, partition, service, region, token])
      (partition_ne : partition ≠ "ipcld".toList) (wrong : ¬ StartsAccount token)

theorem IsDeadEnd.colon_mem (h : IsDeadEnd s) : ':' ∈ s := by
  by_contra hno
  have hone := splitOn_of_not_mem hno
  cases h with
  | service hfields => simp [hone] at hfields
  | account hfields => simp [hone] at hfields

/-- **A dead end stays one**, whatever is typed behind it. -/
theorem IsDeadEnd.not_isPrincipal_append (h : IsDeadEnd s) (t : List Char) :
    ¬ IsPrincipal (s ++ t) := by
  intro hprincipal
  obtain ⟨arn, hspells, hname⟩ := hprincipal.exists_spells (List.mem_append_left t h.colon_mem)
  have hcompleted := hspells.splitOn
  cases h with
  | @service token hfields hwrong =>
      -- the own partition stays, and its only service does not start like this
      have htyped : splitOn ':' s = ["arn".toList, "ipcld".toList] ++ [token] := hfields
      obtain ⟨field, after, hsame, hstart⟩ := exists_splitOn_append htyped t
      simp only [hsame, List.cons_append, List.nil_append, List.cons.injEq] at hcompleted
      obtain ⟨-, hpartition, hservice, -⟩ := hcompleted
      rcases hname with hown | hforeign
      · rw [hservice, hown.service] at hstart
        exact hwrong hstart
      · exact hforeign.partition_ne hpartition.symm
  | @account partition service region token hfields hpartition hwrong =>
      have htyped : splitOn ':' s = ["arn".toList, partition, service, region] ++ [token] :=
        hfields
      obtain ⟨field, after, hsame, hstart⟩ := exists_splitOn_append htyped t
      simp only [hsame, List.cons_append, List.nil_append, List.cons.injEq] at hcompleted
      obtain ⟨-, rfl, -, -, rfl, -⟩ := hcompleted
      rcases hname with hown | hforeign
      · exact hpartition hown.partition
      · rcases hforeign.wellFormed.account with hnone | haccount
        · rw [hnone, List.prefix_nil] at hstart
          exact hwrong (hstart ▸ startsAccount_nil)
        · exact hwrong (startsAccount_of_isPrefix hstart haccount)

/-! ### Resource names -/

/-- Holding back words of success leaves errors alone. -/
theorem gives_error_bind_holdBack_iff {advice : Option Advice} :
    Gives .error (advice.bind (holdBack s)) ↔ Gives .error advice := by
  cases advice with
  | none => simp
  | some a =>
      simp only [Option.bind_some, holdBack, gives_ite, not_gives_none, gives_some, and_false,
        false_or, and_iff_right_iff_imp]
      rintro hkind ⟨hsuccess, -⟩
      rw [hkind] at hsuccess
      cases hsuccess

theorem ofFieldCount_eq_service_iff {n : Nat} : Slot.ofFieldCount n = .service ↔ n = 3 := by
  match n with
  | 0 | 1 | 2 | 3 | 4 | 5 => simp [Slot.ofFieldCount]
  | n + 6 => simp [Slot.ofFieldCount]

theorem ofFieldCount_eq_account_iff {n : Nat} : Slot.ofFieldCount n = .account ↔ n = 5 := by
  match n with
  | 0 | 1 | 2 | 3 | 4 | 5 => simp [Slot.ofFieldCount]
  | n + 6 => simp [Slot.ofFieldCount]

theorem cursor_of_partition {word token : List Char} (h : splitOn ':' s = [word, token]) :
    cursor s = (.partition, ⟨token, [], [], token⟩) := by
  simp [cursor, Arn.ofText, h, Slot.ofFieldCount]

theorem cursor_of_service {word partition token : List Char}
    (h : splitOn ':' s = [word, partition, token]) :
    cursor s = (.service, ⟨partition, token, [], token⟩) := by
  simp [cursor, Arn.ofText, h, Slot.ofFieldCount]

theorem cursor_of_region {word partition service token : List Char}
    (h : splitOn ':' s = [word, partition, service, token]) :
    cursor s = (.region, ⟨partition, service, [], token⟩) := by
  simp [cursor, Arn.ofText, h, Slot.ofFieldCount]

theorem cursor_of_account {word partition service region token : List Char}
    (h : splitOn ':' s = [word, partition, service, region, token]) :
    cursor s = (.account, ⟨partition, service, token, token⟩) := by
  simp [cursor, Arn.ofText, h, Slot.ofFieldCount]

theorem exists_splitOn_of_lead (hlead : Arn.lead.isPrefixOf s = true) :
    ∃ fields, splitOn ':' s = "arn".toList :: fields := by
  obtain ⟨rest, rfl⟩ := List.isPrefixOf_iff_prefix.1 hlead
  exact ⟨splitOn ':' rest, splitOn_append (by decide : ':' ∉ "arn".toList) rest⟩

/-- **Exactly the dead ends are answered with an error**, of the texts that start like a resource
name. -/
theorem gives_error_arnAdvice_iff (hlead : Arn.lead.isPrefixOf s = true) :
    Gives .error (arnAdvice s) ↔ IsDeadEnd s := by
  have hcolon := Arn.colon_mem_of_lead hlead
  obtain ⟨fields, hfields⟩ := exists_splitOn_of_lead hlead
  rw [arnAdvice, if_neg (by simpa using hcolon), gives_error_bind_holdBack_iff,
    gives_error_slotAdvice_iff]
  constructor
  · rintro (⟨hslot, hpartition, hwrong⟩ | ⟨hslot, hpartition, hwrong⟩)
    · have hlength := ofFieldCount_eq_service_iff.1 hslot
      rw [hfields, List.length_cons] at hlength
      obtain ⟨partition, token, rfl⟩ := List.length_eq_two.1 (Nat.succ.inj hlength)
      rw [cursor_of_service hfields] at hpartition hwrong
      obtain rfl : partition = "ipcld".toList := Cursor.isOwn_iff.1 hpartition
      exact .service hfields hwrong
    · have hlength := ofFieldCount_eq_account_iff.1 hslot
      rw [hfields, List.length_cons] at hlength
      obtain ⟨partition, service, region, token, rfl⟩ :=
        List.length_eq_four.1 (Nat.succ.inj hlength)
      rw [cursor_of_account hfields] at hpartition hwrong
      exact .account hfields (Cursor.isOwn_eq_false_iff.1 hpartition) hwrong
  · rintro (⟨htyped, hwrong⟩ | ⟨htyped, hpartition, hwrong⟩)
    · rw [cursor_of_service htyped]
      exact .inl ⟨rfl, rfl, hwrong⟩
    · rw [cursor_of_account htyped]
      exact .inr ⟨rfl, Cursor.isOwn_eq_false_iff.2 hpartition, hwrong⟩

/-! ### All texts -/

theorem IsDeadEnd.lead_isPrefixOf (h : IsDeadEnd s) : Arn.lead.isPrefixOf s = true := by
  obtain ⟨heq, -⟩ := eq_append_cons_of_mem h.colon_mem
  have hfields := splitOn_of_mem h.colon_mem
  have hword : beforeFirst ':' s = "arn".toList := by
    cases h with
    | service htyped => exact (List.cons.inj (hfields.symm.trans htyped)).1
    | account htyped => exact (List.cons.inj (hfields.symm.trans htyped)).1
  rw [List.isPrefixOf_iff_prefix, heq, hword]
  exact ⟨behindFirst ':' s, rfl⟩

/-- **The texts that are answered with an error**: resource names that cannot be completed, and rows
of more digits than the number of an account has. -/
theorem gives_error_adviceOn_iff : Gives .error (adviceOn s) ↔
    IsDeadEnd s ∨ ((∀ c ∈ s, isDigit c = true) ∧ 12 < s.length) := by
  constructor
  · intro h
    rcases Gives.of_adviceOn (by decide) h with ⟨hlead, harn⟩ | hother
    · exact .inl ((gives_error_arnAdvice_iff hlead).1 harn)
    · exact .inr (gives_error_otherAdvice_iff.1 hother)
  · rintro (h | ⟨hdigits, hlength⟩)
    · have hlead := h.lead_isPrefixOf
      rw [adviceOn_of_lead hlead]
      exact ((gives_error_arnAdvice_iff hlead).2 h).or (otherAdvice s)
    · obtain ⟨c, hc⟩ : ∃ c, c ∈ s := List.exists_mem_of_length_pos (by omega)
      have hown : c ∉ Arn.lead := by
        intro hmem
        have hnone : Arn.lead.all (!isDigit ·) = true := by decide
        simpa [hdigits c hc] using List.all_eq_true.1 hnone c hmem
      rw [adviceOn_of_not_lead hc hown (not_mem_of_forall (by decide) hdigits)]
      exact gives_error_otherAdvice_iff.2 ⟨hdigits, hlength⟩

/-! ### Advice and verdict -/

/-- **Nothing makes a resource name acceptable that has been answered with an error**: whatever is
typed behind it, the verdict is unfavourable. -/
theorem not_isValid_append_of_error {typed : String} (hlead : "arn:".toList <+: typed.toList)
    (herror : ∃ a, advise typed = some a ∧ a.kind = .error) (more : String) :
    (review (typed ++ more)).isValid = false := by
  have hcolon : ':' ∈ typed.toList := hlead.subset (by decide)
  rcases gives_error_adviceOn_iff.1 herror with hdead | ⟨hdigits, -⟩
  · rw [← Bool.not_eq_true, isValid_review_iff_passes, passes_remarks_iff, String.toList_append]
    exact hdead.not_isPrincipal_append more.toList
  · exact absurd hcolon (not_mem_of_forall (by decide) hdigits)

/-- A thirteenth digit is one too many, and a resource behind it does not help. -/
theorem not_isValid_thirteen_digits : "arn:".toList <+: "arn:aws:iam::1234567890123".toList ∧
    (∃ a, advise "arn:aws:iam::1234567890123" = some a ∧ a.kind = .error) ∧
      (review ("arn:aws:iam::1234567890123" ++ ":user/alice")).isValid = false := by
  have hlead : "arn:".toList <+: "arn:aws:iam::1234567890123".toList := by decide
  have herror : ∃ a, advise "arn:aws:iam::1234567890123" = some a ∧ a.kind = .error :=
    ⟨_, rfl, rfl⟩
  exact ⟨hlead, herror, not_isValid_append_of_error hlead herror ":user/alice"⟩

/-- **Advice and verdict contradict each other exactly on canonical ids made of digits**: they are
accepted, and the advice takes them for the number of an account with digits to spare. -/
theorem error_and_isValid_iff (principal : String) :
    ((∃ a, advise principal = some a ∧ a.kind = .error) ∧ (review principal).isValid = true) ↔
      principal.toList.length = 64 ∧ ∀ c ∈ principal.toList, isDigit c = true := by
  rw [isValid_review_iff_passes, passes_remarks_iff]
  constructor
  · rintro ⟨herror, hprincipal⟩
    rcases gives_error_adviceOn_iff.1 herror with hdead | ⟨hdigits, hlength⟩
    · exact absurd (by simpa using hprincipal) (hdead.not_isPrincipal_append [])
    · have hdot : '.' ∉ principal.toList := not_mem_of_forall (by decide) hdigits
      have hlead : ¬ Arn.lead.isPrefixOf principal.toList = true := by
        intro hstart
        exact not_mem_of_forall (by decide) hdigits (Arn.colon_mem_of_lead hstart)
      cases hprincipal with
      | nothing hempty => simp [hempty] at hlength
      | everyone hstar => simp [hstar] at hlength
      | canonicalId h64 => exact ⟨h64, hdigits⟩
      | service hname => exact absurd hname.dot_mem hdot
      | account hnumber => exact absurd hnumber.length (by omega)
      | own _ hspells => exact absurd hspells.lead_isPrefixOf hlead
      | foreign _ hspells => exact absurd hspells.lead_isPrefixOf hlead
  · rintro ⟨hlength, hdigits⟩
    refine ⟨gives_error_adviceOn_iff.2 (.inr ⟨hdigits, by omega⟩), .canonicalId hlength ?_⟩
    intro c hc
    simp [isLowerHex, hdigits c hc]

/-- The canonical id of zeros alone is accepted, and answered with an error. -/
theorem error_and_isValid_zeros : ¬ ∀ principal : String,
    (∃ a, advise principal = some a ∧ a.kind = .error) →
      (review principal).isValid = false := by
  intro hnever
  have herror : ∃ a, advise (String.ofList (List.replicate 64 '0')) = some a ∧ a.kind = .error :=
    ⟨_, rfl, rfl⟩
  have hvalid : (review (String.ofList (List.replicate 64 '0'))).isValid = true := by decide
  rw [hnever _ herror] at hvalid
  cases hvalid

end BucketAccess.Principal
