/-
**Double-precision numbers, exactly.**

Every finite double-precision number is a whole multiple of `2 ^ (-1074)`, so a number is kept as
its sign and the count of these units.  A positive ratio is turned into the nearest such number: of
the counts that can be kept, those with at most 53 binary digits before trailing zeros, the one
that lies closest, and of two that lie equally close the one whose last kept digit is zero.  A
count of `2 ^ 2098` or more is beyond the range and becomes infinite.  All of this is arithmetic on
natural numbers, so nothing depends on the machine.

Main definitions:

* `BucketAccess.Decimal.Double` — a double-precision number;
* `BucketAccess.Decimal.roundHalfEven` — a ratio rounded to a whole number;
* `BucketAccess.Decimal.unitsOfRatio` — the count of units nearest to a ratio;
* `BucketAccess.Decimal.Double.ofDecimal` — the number nearest to a decimal;
* `BucketAccess.Decimal.Double.truncTimes` — a product with a whole number, rounded and then cut
  to a whole number.

Main results:

* `BucketAccess.Decimal.roundHalfEven_within_half` — rounding moves a ratio by at most one half.
-/

import BucketAccess.Decimal.Digits

set_option relaxedAutoImplicit false
set_option autoImplicit false

namespace BucketAccess.Decimal

/-- A double-precision number. -/
inductive Double where
  /-- A finite number: its sign, and its size in units of `2 ^ (-1074)`. -/
  | finite (negative : Bool) (units : Nat)
  /-- A number beyond the range. -/
  | infinite (negative : Bool)
  deriving DecidableEq

/-! ### Rounding -/

/-- A ratio rounded to the nearest whole number, a half to the even neighbour. -/
def roundHalfEven (num den : Nat) : Nat :=
  let low := num / den
  let twice := 2 * (num % den)
  if twice < den then low
  else if den < twice then low + 1
  else if low % 2 = 0 then low else low + 1

/-- Rounding moves a ratio by at most one half. -/
theorem roundHalfEven_within_half {num den : Nat} (h : 0 < den) :
    2 * (roundHalfEven num den * den) ≤ 2 * num + den ∧
      2 * num ≤ 2 * (roundHalfEven num den * den) + den := by
  have hdiv := Nat.div_add_mod num den
  have hlt := Nat.mod_lt num h
  have hcomm : den * (num / den) = num / den * den := Nat.mul_comm _ _
  have hsucc : (num / den + 1) * den = num / den * den + den := Nat.succ_mul _ _
  simp only [roundHalfEven]
  split
  · omega
  · split
    · omega
    · split <;> omega

/-- The number of units in one. -/
def unitsPerOne : Nat :=
  Nat.pow 2 1074

/-- The count of units nearest to a ratio, among the counts with at most 53 binary digits before
trailing zeros. -/
def unitsOfRatio (num den : Nat) : Nat :=
  let scaled := num * unitsPerOne
  -- the binary digits beyond the 53 that are kept; none for the numbers nearest to zero
  let spare := (scaled / den).log2 + 1 - 53
  roundHalfEven scaled (den * Nat.pow 2 spare) * Nat.pow 2 spare

/-- A number of a given sign and count of units, infinite where the count is out of range. -/
def Double.ofUnits (negative : Bool) (units : Nat) : Double :=
  if units < Nat.pow 2 2098 then .finite negative units else .infinite negative

/-- The number nearest to a ratio. -/
def Double.ofRatio (negative : Bool) (num den : Nat) : Double :=
  .ofUnits negative (unitsOfRatio num den)

/-- The number nearest to `coefficient * 10 ^ exponent`.  The first two cases are those in which
the size alone decides, however large the exponent is. -/
def Double.ofDecimal (negative : Bool) (coefficient : Nat) (exponent : Int) : Double :=
  -- the number lies below `10 ^ magnitude` and not below a tenth of it
  let magnitude := exponent + (digits coefficient).length
  if coefficient = 0 ∨ magnitude < -330 then .finite negative 0
  else if 310 < magnitude then .infinite negative
  else
    .ofRatio negative (coefficient * Nat.pow 10 exponent.toNat) (Nat.pow 10 (-exponent).toNat)

/-! ### Products -/

/-- The product with a whole number, rounded to the nearest number of the type and then cut to a
whole number towards zero; nothing where the product is out of range. -/
def Double.truncTimes (x : Double) (factor : Nat) : Option Int :=
  match x with
  | .infinite _ => none
  | .finite negative units =>
      match Double.ofRatio negative (units * factor) unitsPerOne with
      | .infinite _ => none
      | .finite _ product =>
          let whole : Int := product / unitsPerOne
          some (if negative then -whole else whole)

end BucketAccess.Decimal
