/-
**The digits that are printed identify the number.**

The fewest digits that read back as a number are found by trying one length after the other; should
none of them do, the exact value is taken, which reads back in any case.  So the digits that are
printed, with the place of the decimal point, always identify the number.

Main definitions:

* `BucketAccess.Decimal.Numeral.Identifies` — digits and a decimal point that read back as a number.

Main results:

* `BucketAccess.Decimal.value_append` — the value of digits behind digits;
* `BucketAccess.Decimal.Shortest.readsBack_decimal` — the decimal that is chosen reads back;
* `BucketAccess.Decimal.identifies_shortest` — **the digits of a number identify it**.
-/

import BucketAccess.Decimal.Shortest
import BucketAccess.Proofs.Decimal.Rounding
import Mathlib.Data.List.Induction

set_option relaxedAutoImplicit false
set_option autoImplicit false

namespace BucketAccess.Decimal

open BucketAccess.Text

/-! ### Rows of digits -/

/-- Digits behind digits move those before them to the left. -/
theorem value_append (s t : List Char) : value (s ++ t) = value s * 10 ^ t.length + value t := by
  induction t using List.reverseRecOn with
  | nil => simp [value]
  | append_singleton t c ih =>
      rw [← List.append_assoc, value_append_digit, value_append_digit, ih, List.length_append,
        List.length_singleton]
      ring

@[simp] theorem value_replicate_zero (k : Nat) : value (List.replicate k '0') = 0 := by
  induction k with
  | zero => rfl
  | succ k ih =>
      have hzero : digitValue '0' = 0 := by decide
      rw [List.replicate_succ', value_append_digit, ih, hzero]

theorem digitValue_le {c : Char} (h : isDigit c = true) : digitValue c ≤ 9 := by
  simp only [isDigit, Bool.and_eq_true, decide_eq_true_eq, Char.le_def, UInt32.le_iff_toNat_le] at h
  have h9 : c.toNat ≤ 57 := h.2
  unfold digitValue
  omega

theorem value_lt {s : List Char} (h : ∀ c ∈ s, isDigit c = true) : value s < 10 ^ s.length := by
  induction s using List.reverseRecOn with
  | nil => simp [value]
  | append_singleton s c ih =>
      have hc := digitValue_le (h c (by simp))
      have hs := ih fun d hd => h d (by simp [hd])
      rw [value_append_digit, List.length_append, List.length_singleton, Nat.pow_succ]
      omega

theorem lt_pow_length_digits (n : Nat) : n < 10 ^ (digits n).length := by
  have h := value_lt (s := digits n) fun c hc => isDigit_of_mem_digits hc
  rwa [value_digits] at h

theorem lt_length_digits {n k : Nat} (h : Nat.pow 10 k ≤ n) : k < (digits n).length := by
  by_contra hshort
  have hlt : n < Nat.pow 10 k := Nat.lt_of_lt_of_le (lt_pow_length_digits n)
    (Nat.pow_le_pow_right (by decide) (Nat.le_of_not_lt hshort))
  exact Nat.not_lt_of_le h hlt

theorem length_digits_le {n k : Nat} (hk : 0 < k) (h : n < 10 ^ k) : (digits n).length ≤ k := by
  induction k generalizing n with
  | zero => omega
  | succ k ih =>
      by_cases hn : n < 10
      · rw [digits_of_lt hn, List.length_singleton]
        omega
      · have hdiv : n / 10 < 10 ^ k := Nat.div_lt_of_lt_mul (by rwa [Nat.pow_succ'] at h)
        have hpos : 0 < k := by
          rcases Nat.eq_zero_or_pos k with rfl | hpos
          · omega
          · exact hpos
        rw [digits_of_ge (by omega), List.length_append, List.length_singleton]
        exact Nat.succ_le_succ (ih hpos hdiv)

theorem length_digits_mono {m n : Nat} (h : m ≤ n) : (digits m).length ≤ (digits n).length :=
  length_digits_le (List.length_pos_iff.2 (digits_ne_nil n))
    (Nat.lt_of_le_of_lt h (lt_pow_length_digits n))

/-- A row of digits is no shorter than the digits of its value. -/
theorem length_digits_value_le {s : List Char} (hne : s ≠ []) (h : ∀ c ∈ s, isDigit c = true) :
    (digits (value s)).length ≤ s.length :=
  length_digits_le (List.length_pos_iff.2 hne) (value_lt h)

/-! ### The decimal that is chosen -/

namespace Shortest

/-- The exact value of a number reads back. -/
theorem readsBack_exact {units : Nat} (hpos : 0 < units) (hrepresentable : Representable units)
    (hrange : units < Double.rangeEnd) :
    readsBack units (units * Nat.pow 5 1074) (-1074) = true := by
  have hlower : 743 < (digits (Nat.pow 5 1074)).length := lt_length_digits (by decide +kernel)
  have hfive : 0 < Nat.pow 5 1074 := by decide +kernel
  have hupper : (digits (Double.rangeEnd * Nat.pow 5 1074)).length ≤ 1384 := by
    refine length_digits_le (by decide) ?_
    unfold Double.rangeEnd
    decide +kernel
  have hratio : Nat.pow 5 1074 * unitsPerOne = Nat.pow 10 (-(-1074) : Int).toNat := by
    decide +kernel
  generalize Nat.pow 5 1074 = five at hlower hfive hupper hratio ⊢
  have hfew : 743 < (digits (units * five)).length :=
    Nat.lt_of_lt_of_le hlower (length_digits_mono (Nat.le_mul_of_pos_left five hpos))
  have hmany : (digits (units * five)).length ≤ 1384 :=
    Nat.le_trans (length_digits_mono (Nat.mul_le_mul_right five (Nat.le_of_lt hrange))) hupper
  have hunits : unitsOfRatio (units * five * Nat.pow 10 (-1074 : Int).toNat)
      (Nat.pow 10 (-(-1074) : Int).toNat) = units := by
    have hten : ∀ n, 0 < Nat.pow 10 n := by
      intro n
      exact Nat.pow_pos (by decide)
    have hone : units * five * Nat.pow 10 (-1074 : Int).toNat = units * five := Nat.mul_one _
    refine unitsOfRatio_of_representable hrepresentable (hten _) ?_
    rw [hone, ← hratio, Nat.mul_assoc]
  rw [readsBack, beq_iff_eq, Double.ofDecimal, if_neg, if_neg, Double.ofRatio, hunits,
    Double.ofUnits_eq, if_pos hrange]
  · omega
  · rw [not_or]
    exact ⟨Nat.pos_iff_ne_zero.1 (Nat.mul_pos hpos hfive), by omega⟩

/-- **The decimal that is chosen reads back.** -/
theorem readsBack_decimal {units : Nat} (hpos : 0 < units) (hrepresentable : Representable units)
    (hrange : units < Double.rangeEnd) :
    readsBack units (decimal units).1 (decimal units).2 = true := by
  unfold decimal
  cases hfound : (List.range 17).findSome? fun n => atLength units (n + 1) with
  | none => exact readsBack_exact hpos hrepresentable hrange
  | some found =>
      obtain ⟨n, -, hn⟩ := List.exists_of_findSome?_eq_some hfound
      exact readsBack_of_atLength hn

end Shortest

/-! ### The digits that are printed -/

/-- Digits and a decimal point that read back as a number of units. -/
structure Numeral.Identifies (n : Numeral) (units : Nat) : Prop where
  isDigit : ∀ c ∈ n.digits, isDigit c = true
  digits_ne_nil : n.digits ≠ []
  head_ne_zero : n.digits.head? ≠ some '0'
  reads : Double.ofDecimal false (value n.digits) (n.point - n.digits.length) = .finite false units

/-- Digits without the zeros at their end, and those zeros. -/
theorem exists_eq_append_replicate (s : List Char) :
    ∃ k, s = (s.reverse.dropWhile (· == '0')).reverse ++ List.replicate k '0' := by
  generalize hzeros : s.reverse.takeWhile (· == '0') = zeros
  generalize hkept : s.reverse.dropWhile (· == '0') = kept
  have hall : zeros = List.replicate zeros.length '0' := by
    refine List.eq_replicate_iff.2 ⟨rfl, fun c hc => ?_⟩
    rw [← hzeros] at hc
    simpa using List.all_eq_true.1 (List.all_takeWhile (l := s.reverse)) c hc
  refine ⟨zeros.length, ?_⟩
  calc s = s.reverse.reverse := (List.reverse_reverse s).symm
    _ = (zeros ++ kept).reverse := by rw [← hzeros, ← hkept, List.takeWhile_append_dropWhile]
    _ = kept.reverse ++ zeros.reverse := List.reverse_append
    _ = kept.reverse ++ List.replicate zeros.length '0' := by
        rw [hall, List.reverse_replicate, List.length_replicate]

/-- A decimal that reads back, without the zeros at its end. -/
theorem identifies_ofDecimal {units coefficient : Nat} {exponent : Int} (hpos : 0 < units)
    (hreads : Double.ofDecimal false coefficient exponent = .finite false units) :
    (Numeral.ofDecimal coefficient exponent).Identifies units := by
  have hcoefficient : 0 < coefficient := by
    rcases Nat.eq_zero_or_pos coefficient with rfl | h
    · rw [Double.ofDecimal_zero, Double.finite.injEq] at hreads
      exact absurd hreads.2 (Nat.ne_of_lt hpos)
    · exact h
  have hhead : (digits coefficient).head? ≠ some '0' := head_digits_ne_zero hcoefficient
  obtain ⟨k, hk⟩ := exists_eq_append_replicate (digits coefficient)
  have hnumeral : Numeral.ofDecimal coefficient exponent =
      ⟨((digits coefficient).reverse.dropWhile (· == '0')).reverse,
        exponent + (digits coefficient).length⟩ := rfl
  rw [hnumeral]
  generalize ((digits coefficient).reverse.dropWhile (· == '0')).reverse = kept at hk ⊢
  have hne : kept ≠ [] := by
    rintro rfl
    cases k with
    | zero => exact digits_ne_nil coefficient (by simpa using hk)
    | succ k => simp [hk, List.replicate_succ] at hhead
  have hvalue : value kept * 10 ^ k = coefficient := by
    have h := value_digits coefficient
    rwa [hk, value_append, value_replicate_zero, List.length_replicate, Nat.add_zero] at h
  have hpoint : exponent + ((digits coefficient).length : Int) - (kept.length : Int) =
      exponent + k := by
    rw [hk, List.length_append, List.length_replicate]
    omega
  refine ⟨fun c hc => ?_, hne, fun hzero => hhead ?_, ?_⟩
  · have hmem : c ∈ digits coefficient := hk ▸ List.mem_append_left _ hc
    exact isDigit_of_mem_digits hmem
  · rw [hk, List.head?_append, hzero]
    rfl
  · simp only [hpoint]
    rw [← Double.ofDecimal_mul_pow, hvalue]
    exact hreads

/-- **The digits of a number identify it.** -/
theorem identifies_shortest {units : Nat} (hpos : 0 < units) (hrepresentable : Representable units)
    (hrange : units < Double.rangeEnd) : (shortest units).Identifies units := by
  have hreads := Shortest.readsBack_decimal hpos hrepresentable hrange
  unfold shortest
  generalize Shortest.decimal units = chosen at hreads ⊢
  rw [Shortest.readsBack, beq_iff_eq] at hreads
  exact identifies_ofDecimal hpos hreads

end BucketAccess.Decimal
