/-
**Numbers that are laid out can be read again.**

However a number is laid out, its text is a whole part, perhaps a fraction, and perhaps a power of
ten, and taken together they stand for the number.  Zeros that fill the space up to the decimal
point change the digits and the exponent, and not the value.

Main definitions:

* `BucketAccess.Decimal.Parts` — the parts of a number that is written out, and `Parts.text`;
* `BucketAccess.Decimal.Parts.WellFormed` — parts that can be told from one another;
* `BucketAccess.Decimal.Parts.Spells` — parts that stand for a number of units.

Main results:

* `BucketAccess.Decimal.exists_spells_aroundPoint`,
  `BucketAccess.Decimal.exists_spells_withExponent` — the two layouts;
* `BucketAccess.Decimal.exists_spells_size` — **every size that is laid out is spelled**.
-/

import BucketAccess.Decimal.Layout
import BucketAccess.Proofs.Decimal.Printing

set_option relaxedAutoImplicit false
set_option autoImplicit false

namespace BucketAccess.Decimal

open BucketAccess.Text

/-! ### Parts -/

/-- The parts of a number that is written out. -/
structure Parts where
  /-- The digits before the point. -/
  whole : List Char
  /-- The digits behind the point; none where there is no point. -/
  fraction : List Char
  /-- The power of ten, if there is one: whether it is negative, and its digits. -/
  exponent : Option (Bool × List Char)

namespace Parts

/-- A fraction as it is written. -/
def fractionText (fraction : List Char) : List Char :=
  if fraction.isEmpty then [] else '.' :: fraction

/-- A power of ten as it is written. -/
def exponentText : Option (Bool × List Char) → List Char
  | none => []
  | some (negative, size) => 'e' :: (if negative then '-' else '+') :: size

/-- The text of a number. -/
def text (p : Parts) : List Char :=
  p.whole ++ (fractionText p.fraction ++ exponentText p.exponent)

/-- The power of ten. -/
def power? : Option (Bool × List Char) → Option Int
  | none => none
  | some (negative, size) => some (if negative then -(value size : Int) else value size)

/-- Parts that can be told from one another: digits in each, no needless zero in front. -/
structure WellFormed (p : Parts) : Prop where
  whole_ne_nil : p.whole ≠ []
  isDigit_whole : ∀ c ∈ p.whole, isDigit c = true
  head_whole : p.whole.head? = some '0' → p.whole = ['0']
  isDigit_fraction : ∀ c ∈ p.fraction, isDigit c = true
  exponent_ne_nil : ∀ e, p.exponent = some e → e.2 ≠ []
  isDigit_exponent : ∀ e, p.exponent = some e → ∀ c ∈ e.2, isDigit c = true

/-- Parts that stand for a number of units, and not for a whole number. -/
structure Spells (p : Parts) (units : Nat) : Prop extends WellFormed p where
  fractional : p.fraction ≠ [] ∨ p.exponent ≠ none
  reads : Double.ofDecimal false (value (p.whole ++ p.fraction))
    ((power? p.exponent).getD 0 - p.fraction.length) = .finite false units

end Parts

/-! ### Around the point -/

theorem isDigit_of_mem_replicate {k : Nat} {c : Char} (h : c ∈ List.replicate k '0') :
    isDigit c = true := by
  rw [(List.mem_replicate.1 h).2]
  decide

/-- Zeros between the point and the first digit. -/
theorem spells_of_point_le {n : Numeral} {units : Nat} (h : n.Identifies units)
    (hpoint : n.point ≤ 0) : Parts.Spells
      ⟨['0'], List.replicate (-n.point).toNat '0' ++ n.digits, none⟩ units where
  whole_ne_nil := by simp
  isDigit_whole := by simp; decide
  head_whole := by simp
  isDigit_fraction c hc := by
    rcases List.mem_append.1 hc with hc | hc
    · exact isDigit_of_mem_replicate hc
    · exact h.isDigit c hc
  exponent_ne_nil := by simp
  isDigit_exponent := by simp
  fractional := .inl (by simp [h.digits_ne_nil])
  reads := by
    have hzero : value ['0'] = 0 := by decide
    have hvalue : value (['0'] ++ (List.replicate (-n.point).toNat '0' ++ n.digits)) =
        value n.digits := by
      rw [value_append, value_append, hzero, value_replicate_zero]
      omega
    have hexponent : (Parts.power? none).getD 0 -
        ((List.replicate (-n.point).toNat '0' ++ n.digits).length : Int) =
          n.point - n.digits.length := by
      rw [List.length_append, List.length_replicate, Parts.power?, Option.getD_none]
      omega
    rw [hvalue, hexponent]
    exact h.reads

/-- The point between two digits. -/
theorem spells_of_point_lt {n : Numeral} {units : Nat} (h : n.Identifies units)
    (hpos : 0 < n.point) (hpoint : n.point.toNat < n.digits.length) : Parts.Spells
      ⟨n.digits.take n.point.toNat, n.digits.drop n.point.toNat, none⟩ units where
  whole_ne_nil := by
    have hne := h.digits_ne_nil
    have hcut : n.point.toNat ≠ 0 := by omega
    simp [List.take_eq_nil_iff, hne, hcut]
  isDigit_whole c hc := h.isDigit c (List.mem_of_mem_take hc)
  head_whole hzero := by
    have hcut : n.point.toNat ≠ 0 := by omega
    rw [List.head?_take, if_neg hcut] at hzero
    exact absurd hzero h.head_ne_zero
  isDigit_fraction c hc := h.isDigit c (List.mem_of_mem_drop hc)
  exponent_ne_nil := by simp
  isDigit_exponent := by simp
  fractional := .inl (by simpa [List.drop_eq_nil_iff] using hpoint)
  reads := by
    have hexponent : (Parts.power? none).getD 0 -
        ((n.digits.drop n.point.toNat).length : Int) = n.point - n.digits.length := by
      rw [List.length_drop, Parts.power?, Option.getD_none]
      omega
    simp only [List.take_append_drop, hexponent]
    exact h.reads

/-- Zeros between the last digit and the point. -/
theorem spells_of_le_point {n : Numeral} {units : Nat} (h : n.Identifies units)
    (hpoint : n.digits.length ≤ n.point.toNat) : Parts.Spells
      ⟨n.digits ++ List.replicate (n.point.toNat - n.digits.length) '0', ['0'], none⟩ units where
  whole_ne_nil := by simp [h.digits_ne_nil]
  isDigit_whole c hc := by
    rcases List.mem_append.1 hc with hc | hc
    · exact h.isDigit c hc
    · exact isDigit_of_mem_replicate hc
  head_whole hzero := by
    obtain ⟨d, more, hdigits⟩ := List.exists_cons_of_ne_nil h.digits_ne_nil
    have hhead := h.head_ne_zero
    rw [hdigits] at hzero hhead
    exact absurd hzero hhead
  isDigit_fraction := by simp; decide
  exponent_ne_nil := by simp
  isDigit_exponent := by simp
  fractional := .inl (by simp)
  reads := by
    have hpos : 0 < n.digits.length := List.length_pos_iff.2 h.digits_ne_nil
    generalize hk : n.point.toNat - n.digits.length + 1 = k
    have hzeros : n.digits ++ List.replicate (n.point.toNat - n.digits.length) '0' ++ ['0'] =
        n.digits ++ List.replicate k '0' := by
      rw [List.append_assoc, ← hk, List.replicate_succ']
    have hvalue : value (n.digits ++ List.replicate k '0') = value n.digits * 10 ^ k := by
      rw [value_append, value_replicate_zero, List.length_replicate, Nat.add_zero]
    have hexponent : (Parts.power? none).getD 0 - ((['0'].length : Nat) : Int) + k =
        n.point - n.digits.length := by
      rw [Parts.power?, Option.getD_none, List.length_singleton]
      omega
    simp only [hzeros, hvalue]
    rw [Double.ofDecimal_mul_pow, hexponent]
    exact h.reads

/-- A number around the decimal point. -/
theorem exists_spells_aroundPoint {n : Numeral} {units : Nat} (h : n.Identifies units) :
    ∃ p : Parts, aroundPoint n = p.text ∧ p.Spells units := by
  by_cases hle : n.point ≤ 0
  · refine ⟨_, ?_, spells_of_point_le h hle⟩
    simp [aroundPoint, hle, Parts.text, Parts.fractionText, Parts.exponentText, h.digits_ne_nil]
  · by_cases hlt : n.point.toNat < n.digits.length
    · refine ⟨_, ?_, spells_of_point_lt h (by omega) hlt⟩
      have hzeros : n.point.toNat - n.digits.length = 0 := by omega
      have hafter : (n.digits.drop n.point.toNat).isEmpty = false := by
        simpa [List.isEmpty_eq_false_iff, List.drop_eq_nil_iff] using hlt
      simp [aroundPoint, hle, hzeros, hafter, Parts.text, Parts.fractionText, Parts.exponentText]
    · refine ⟨_, ?_, spells_of_le_point h (by omega)⟩
      have hbefore : n.digits.take n.point.toNat = n.digits := List.take_of_length_le (by omega)
      have hafter : n.digits.drop n.point.toNat = [] := List.drop_eq_nil_iff.2 (by omega)
      simp [aroundPoint, hle, hbefore, hafter, Parts.text, Parts.fractionText, Parts.exponentText]

/-! ### With an exponent -/

theorem value_padded (width n : Nat) : value (padded width (digits n)) = n := by
  rw [padded, value_append, value_replicate_zero, Nat.zero_mul, Nat.zero_add, value_digits]

theorem isDigit_of_mem_padded {width n : Nat} {c : Char} (h : c ∈ padded width (digits n)) :
    isDigit c = true := by
  rcases List.mem_append.1 h with h | h
  · exact isDigit_of_mem_replicate h
  · exact isDigit_of_mem_digits h

/-- One digit, the others behind the point, and a power of ten. -/
theorem spells_of_cons {d : Char} {more : List Char} {point : Int} {units : Nat}
    (h : Numeral.Identifies ⟨d :: more, point⟩ units) (width : Nat) : Parts.Spells
      ⟨[d], more, some (decide (point - 1 < 0), padded width (digits (point - 1).natAbs))⟩
      units where
  whole_ne_nil := by simp
  isDigit_whole c hc := h.isDigit c (List.mem_of_mem_head? (by simp_all))
  head_whole hzero := absurd hzero h.head_ne_zero
  isDigit_fraction c hc := h.isDigit c (List.mem_cons_of_mem d hc)
  exponent_ne_nil := by simp [padded, digits_ne_nil]
  isDigit_exponent := by
    rintro e he c hc
    obtain rfl := Option.some.inj he
    exact isDigit_of_mem_padded hc
  fractional := .inr (by simp)
  reads := by
    have hpower : Parts.power? (some (decide (point - 1 < 0),
        padded width (digits (point - 1).natAbs))) = some (point - 1) := by
      simp only [Parts.power?, value_padded, decide_eq_true_eq, Option.some.injEq]
      split <;> omega
    have hreads := h.reads
    have hexponent : point - 1 - (more.length : Int) = point - ((d :: more).length : Int) := by
      rw [List.length_cons]
      omega
    simp only [hpower, Option.getD_some, hexponent]
    exact hreads

/-- A number with an exponent. -/
theorem exists_spells_withExponent (layout : Layout) {n : Numeral} {units : Nat}
    (h : n.Identifies units) : ∃ p : Parts, withExponent layout n = p.text ∧ p.Spells units := by
  obtain ⟨d, more, hdigits⟩ := List.exists_cons_of_ne_nil h.digits_ne_nil
  obtain ⟨_, point⟩ := n
  obtain rfl : _ = d :: more := hdigits
  refine ⟨_, ?_, spells_of_cons h layout.exponentWidth⟩
  cases more with
  | nil => simp [withExponent, Parts.text, Parts.fractionText, Parts.exponentText]
  | cons e more => simp [withExponent, Parts.text, Parts.fractionText, Parts.exponentText]

/-! ### Sizes -/

theorem spells_zero : Parts.Spells ⟨['0'], ['0'], none⟩ 0 where
  whole_ne_nil := by simp
  isDigit_whole := by simp; decide
  head_whole := by simp
  isDigit_fraction := by simp; decide
  exponent_ne_nil := by simp
  isDigit_exponent := by simp
  fractional := .inl (by simp)
  reads := by
    have hzero : value (['0'] ++ ['0']) = 0 := by decide
    simp only [hzero]
    exact Double.ofDecimal_zero false _

/-- **Every size that is laid out is spelled.** -/
theorem exists_spells_size (layout : Layout) {units : Nat} (hrepresentable : Representable units)
    (hrange : units < Double.rangeEnd) :
    ∃ p : Parts, layout.size units = p.text ∧ p.Spells units := by
  rcases Nat.eq_zero_or_pos units with rfl | hpos
  · exact ⟨_, rfl, spells_zero⟩
  · have hidentifies := identifies_shortest hpos hrepresentable hrange
    rw [Layout.size, if_neg (Nat.ne_of_gt hpos)]
    generalize shortest units = n at hidentifies ⊢
    simp only
    split
    · exact exists_spells_aroundPoint hidentifies
    · exact exists_spells_withExponent layout hidentifies

end BucketAccess.Decimal
