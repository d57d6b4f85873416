/-
**Which numbers rounding gives, and from what.**

The number nearest to a decimal depends on the value of the decimal only: zeros may be moved from
the coefficient to the exponent.  Every number that rounding gives has at most 53 binary digits
before trailing zeros, and a ratio that is such a number already is rounded to itself.

Main definitions:

* `BucketAccess.Decimal.Representable` — counts of units with at most 53 binary digits before
  trailing zeros;
* `BucketAccess.Decimal.Double.IsRounded` — numbers that rounding may give.

Main results:

* `BucketAccess.Decimal.representable_unitsOfRatio` — **rounding gives representable counts**;
* `BucketAccess.Decimal.unitsOfRatio_of_representable` — and leaves them alone;
* `BucketAccess.Decimal.Double.ofDecimal_mul_pow` — only the value of a decimal matters;
* `BucketAccess.Decimal.Double.isRounded_ofDecimal` — the number nearest to a decimal is rounded.
-/

import BucketAccess.Decimal.Double
import Mathlib.Tactic.Ring

set_option relaxedAutoImplicit false
set_option autoImplicit false

namespace BucketAccess.Decimal

/-! ### Rounding a ratio -/

/-- A ratio is rounded the same way when it is expanded. -/
theorem roundHalfEven_mul_right (num den : Nat) {m : Nat} (h : 0 < m) :
    roundHalfEven (num * m) (den * m) = roundHalfEven num den := by
  have htwice : 2 * (num % den * m) = 2 * (num % den) * m := by rw [Nat.mul_assoc]
  simp only [roundHalfEven, Nat.mul_div_mul_right num den h, Nat.mul_mod_mul_right, htwice,
    Nat.mul_lt_mul_right h]

/-- A whole number is rounded to itself. -/
theorem roundHalfEven_mul_self (whole : Nat) {den : Nat} (h : 0 < den) :
    roundHalfEven (whole * den) den = whole := by
  simp [roundHalfEven, Nat.mul_div_cancel whole h, h]

theorem roundHalfEven_le (num den : Nat) : roundHalfEven num den ≤ num / den + 1 := by
  simp only [roundHalfEven]
  split
  · omega
  · split
    · omega
    · split <;> omega

/-! ### Representable counts -/

/-- A count of units with at most 53 binary digits before trailing zeros. -/
def Representable (units : Nat) : Prop :=
  2 ^ (units.log2 + 1 - 53) ∣ units

/-- Up to 53 binary digits with zeros behind them. -/
theorem representable_mul_pow {whole : Nat} (h : whole ≤ 2 ^ 53) (spare : Nat) :
    Representable (whole * 2 ^ spare) := by
  rcases Nat.lt_or_eq_of_le h with hlt | rfl
  · by_cases hzero : whole * 2 ^ spare = 0
    · rw [Representable, hzero]
      exact Nat.dvd_zero _
    · have hbound : whole * 2 ^ spare < 2 ^ (53 + spare) := by
        rw [Nat.pow_add]
        exact Nat.mul_lt_mul_of_pos_right hlt (Nat.two_pow_pos spare)
      have hlog : (whole * 2 ^ spare).log2 < 53 + spare := (Nat.log2_lt hzero).2 hbound
      exact Nat.dvd_trans (Nat.pow_dvd_pow 2 (by omega)) (Nat.dvd_mul_left _ _)
  · rw [Representable, ← Nat.pow_add, Nat.log2_two_pow]
    exact Nat.pow_dvd_pow 2 (by omega)

/-- **Rounding gives representable counts.** -/
theorem representable_unitsOfRatio (num den : Nat) : Representable (unitsOfRatio num den) := by
  refine representable_mul_pow ?_ _
  generalize hscaled : num * unitsPerOne = scaled
  generalize hspare : (scaled / den).log2 + 1 - 53 = spare
  have hwhole : scaled / den < 2 ^ (53 + spare) :=
    Nat.lt_of_lt_of_le Nat.lt_log2_self (Nat.pow_le_pow_right (by decide) (by omega))
  have hlow : scaled / (den * 2 ^ spare) < 2 ^ 53 := by
    rw [← Nat.div_div_eq_div_mul]
    refine Nat.div_lt_of_lt_mul ?_
    rwa [← Nat.pow_add, Nat.add_comm]
  exact Nat.le_trans (roundHalfEven_le _ _) hlow

/-- A ratio that is a representable count is left alone. -/
theorem unitsOfRatio_of_representable {units num den : Nat} (h : Representable units)
    (hden : 0 < den) (hratio : num * unitsPerOne = units * den) : unitsOfRatio num den = units := by
  have hwhole : num * unitsPerOne / den = units := by rw [hratio, Nat.mul_div_cancel _ hden]
  obtain ⟨kept, hkept⟩ := h
  have hpow : 0 < 2 ^ (units.log2 + 1 - 53) := Nat.two_pow_pos _
  have hscaled : num * unitsPerOne = kept * (den * 2 ^ (units.log2 + 1 - 53)) := by
    rw [hratio]
    conv => lhs; rw [hkept]
    ring
  simp only [unitsOfRatio, hwhole, Nat.pow_eq]
  rw [hscaled, roundHalfEven_mul_self kept (Nat.mul_pos hden hpow), Nat.mul_comm]
  exact hkept.symm

/-- The nearest count is the same when the ratio is expanded. -/
theorem unitsOfRatio_mul_right (num den : Nat) {m : Nat} (h : 0 < m) :
    unitsOfRatio (num * m) (den * m) = unitsOfRatio num den := by
  have hscaled : num * m * unitsPerOne = num * unitsPerOne * m := by ring
  have hden : ∀ spare, den * m * Nat.pow 2 spare = den * Nat.pow 2 spare * m := by
    intro spare
    ring
  simp only [unitsOfRatio, hscaled, hden, Nat.mul_div_mul_right _ _ h,
    roundHalfEven_mul_right _ _ h]

/-! ### Decimals -/

theorem length_digits_mul_pow {n : Nat} (h : 0 < n) (k : Nat) :
    (digits (n * 10 ^ k)).length = (digits n).length + k := by
  induction k with
  | zero => simp
  | succ k ih =>
      have hpos : 0 < n * 10 ^ k := Nat.mul_pos h (Nat.pow_pos (by decide))
      have hten : n * 10 ^ (k + 1) = n * 10 ^ k * 10 := by ring
      rw [hten, digits_of_ge (by omega), Nat.mul_div_cancel _ (by decide), List.length_append, ih,
        List.length_singleton]
      omega

namespace Double

/-- The first count of units that is out of range; it is too large to be unfolded freely. -/
@[irreducible] def rangeEnd : Nat :=
  Nat.pow 2 2098

theorem ofUnits_eq (negative : Bool) (units : Nat) :
    ofUnits negative units = if units < rangeEnd then .finite negative units
      else .infinite negative := by
  unfold ofUnits rangeEnd
  rfl

theorem rangeEnd_pos : 0 < rangeEnd := by
  unfold rangeEnd
  decide +kernel

/-- A number that rounding may give. -/
inductive IsRounded : Double → Prop where
  | finite (negative : Bool) {units : Nat} (representable : Representable units)
      (inRange : units < rangeEnd) : IsRounded (.finite negative units)
  | infinite (negative : Bool) : IsRounded (.infinite negative)

theorem ofDecimal_zero (negative : Bool) (exponent : Int) :
    ofDecimal negative 0 exponent = .finite negative 0 := by
  rw [ofDecimal, if_pos (.inl rfl)]

/-- Only the quotient of the two powers of ten matters. -/
theorem ofRatio_pow (negative : Bool) (coefficient m n k : Nat) :
    ofRatio negative (coefficient * Nat.pow 10 (m + k)) (Nat.pow 10 (n + k)) =
      ofRatio negative (coefficient * Nat.pow 10 m) (Nat.pow 10 n) := by
  have hnum : coefficient * Nat.pow 10 (m + k) = coefficient * Nat.pow 10 m * 10 ^ k := by
    simp only [Nat.pow_eq, Nat.pow_add]
    ring
  have hden : Nat.pow 10 (n + k) = Nat.pow 10 n * 10 ^ k := by
    simp only [Nat.pow_eq, Nat.pow_add]
  rw [ofRatio, ofRatio, hnum, hden, unitsOfRatio_mul_right _ _ (Nat.pow_pos (by decide))]

/-- **Only the value of a decimal matters**: zeros of the coefficient may be counted in the
exponent. -/
theorem ofDecimal_mul_pow (negative : Bool) (coefficient k : Nat) (exponent : Int) :
    ofDecimal negative (coefficient * 10 ^ k) exponent =
      ofDecimal negative coefficient (exponent + k) := by
  rcases Nat.eq_zero_or_pos coefficient with rfl | hpos
  · rw [Nat.zero_mul, ofDecimal_zero, ofDecimal_zero]
  · have hten : 0 < 10 ^ k := Nat.pow_pos (by decide)
    have hmagnitude : exponent + ((digits (coefficient * 10 ^ k)).length : Int) =
        exponent + k + ((digits coefficient).length : Int) := by
      rw [length_digits_mul_pow hpos]
      omega
    have hzero : coefficient * 10 ^ k = 0 ↔ coefficient = 0 := by
      rw [Nat.mul_eq_zero]
      omega
    -- the two ratios differ by the power of ten that fits into the denominator
    obtain ⟨t, hnum, hden⟩ : ∃ t, exponent.toNat + k = (exponent + k).toNat + t ∧
        (-exponent).toNat = (-(exponent + k)).toNat + t :=
      ⟨exponent.toNat + k - (exponent + k).toNat, by omega, by omega⟩
    have hratio : ofRatio negative (coefficient * 10 ^ k * Nat.pow 10 exponent.toNat)
        (Nat.pow 10 (-exponent).toNat) =
          ofRatio negative (coefficient * Nat.pow 10 (exponent + k).toNat)
            (Nat.pow 10 (-(exponent + k)).toNat) := by
      rw [← ofRatio_pow negative coefficient _ _ t, ← hnum, ← hden]
      simp only [Nat.pow_eq, Nat.pow_add]
      congr 1
      ring
    simp only [ofDecimal, hmagnitude, hzero, hratio]

/-- The sign does not matter for the size. -/
theorem ofDecimal_of_eq_finite {coefficient units : Nat} {exponent : Int}
    (h : ofDecimal false coefficient exponent = .finite false units) (negative : Bool) :
    ofDecimal negative coefficient exponent = .finite negative units := by
  simp only [ofDecimal, ofRatio, ofUnits_eq] at h ⊢
  split at h
  · next hc =>
      rw [if_pos hc]
      simpa using h
  · next hc =>
      rw [if_neg hc]
      split at h
      · simp at h
      · next hc' =>
          rw [if_neg hc']
          split at h
          · next hc'' =>
              rw [if_pos hc'']
              simpa using h
          · simp at h

theorem isRounded_ofUnits (negative : Bool) {units : Nat} (h : Representable units) :
    (ofUnits negative units).IsRounded := by
  rw [ofUnits_eq]
  by_cases hlt : units < rangeEnd
  · rw [if_pos hlt]
    exact .finite negative h hlt
  · rw [if_neg hlt]
    exact .infinite negative

/-- The number nearest to a decimal is rounded. -/
theorem isRounded_ofDecimal (negative : Bool) (coefficient : Nat) (exponent : Int) :
    (ofDecimal negative coefficient exponent).IsRounded := by
  simp only [ofDecimal]
  split
  · exact .finite negative (Nat.dvd_zero _) rangeEnd_pos
  · split
    · exact .infinite negative
    · exact isRounded_ofUnits negative (representable_unitsOfRatio _ _)

end Double

end BucketAccess.Decimal
