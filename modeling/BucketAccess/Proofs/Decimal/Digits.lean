/-
**Rows of digits and the numbers they are written for.**

A number is written in one way only, and a row of digits without a needless zero in front is the way
in which its number is written.

Main results:

* `BucketAccess.Decimal.digits_injective` — different numbers are written differently;
* `BucketAccess.Decimal.digits_value` — **a row of digits is what its number is written as**.
-/

import BucketAccess.Proofs.Decimal.Printing

set_option relaxedAutoImplicit false
set_option autoImplicit false

namespace BucketAccess.Decimal

open BucketAccess.Text (isDigit)

theorem digits_injective {m n : Nat} (h : digits m = digits n) : m = n := by
  rw [← value_digits m, ← value_digits n, h]

theorem digitChar_digitValue {c : Char} (h : isDigit c = true) : digitChar (digitValue c) = c := by
  have hle := digitValue_le h
  simp only [isDigit, Bool.and_eq_true, decide_eq_true_eq, Char.le_def,
    UInt32.le_iff_toNat_le] at h
  have hlow : 48 ≤ c.toNat := h.1
  have hcode : 48 + digitValue c = c.toNat := by
    unfold digitValue at hle ⊢
    omega
  rw [digitChar, hcode, Char.ofNat_toNat]

theorem value_pos {s : List Char} (hne : s ≠ []) (hdigits : ∀ c ∈ s, isDigit c = true)
    (hhead : s.head? ≠ some '0') : 0 < value s := by
  induction s using List.reverseRecOn with
  | nil => exact absurd rfl hne
  | append_singleton t c ih =>
      rw [value_append_digit]
      cases t with
      | nil =>
          have hc : isDigit c = true := hdigits c (by simp)
          have hzero : digitValue c ≠ 0 := by
            intro hvalue
            have hchar := digitChar_digitValue hc
            rw [hvalue] at hchar
            exact hhead (by simp [← hchar, digitChar])
          omega
      | cons d more =>
          have hpos := ih (by simp) (fun e he => hdigits e (List.mem_append_left _ he))
            (by simpa using hhead)
          omega

/-- A row of digits without a needless zero is what its number is written as. -/
theorem digits_value {s : List Char} (hne : s ≠ []) (hdigits : ∀ c ∈ s, isDigit c = true)
    (hhead : s.head? ≠ some '0') : digits (value s) = s := by
  induction s using List.reverseRecOn with
  | nil => exact absurd rfl hne
  | append_singleton t c ih =>
      have hc : isDigit c = true := hdigits c (by simp)
      have hle := digitValue_le hc
      rw [value_append_digit]
      cases t with
      | nil =>
          have hsmall : 10 * value [] + digitValue c = digitValue c := by simp [value]
          rw [hsmall, digits_of_lt (by omega), digitChar_digitValue hc, List.nil_append]
      | cons d more =>
          have hfront : ∀ e ∈ d :: more, isDigit e = true := by
            intro e he
            exact hdigits e (List.mem_append_left _ he)
          have hheadFront : (d :: more).head? ≠ some '0' := by simpa using hhead
          have hpos := value_pos (by simp) hfront hheadFront
          have hdiv : (10 * value (d :: more) + digitValue c) / 10 = value (d :: more) := by omega
          have hmod : (10 * value (d :: more) + digitValue c) % 10 = digitValue c := by omega
          rw [digits_of_ge (by omega), hdiv, hmod, ih (by simp) hfront hheadFront,
            digitChar_digitValue hc]

end BucketAccess.Decimal
