/-
**The fewest digits that identify a number.**

A number is written with no more decimal digits than are needed to tell it from its neighbours.
For one digit, two digits and so on, the two decimals of that many digits on either side of the
number are tried; the first row with a decimal that reads back as the number wins.  When both sides
read back the closer one is taken, and when they are equally close the one that ends in an even
digit.

Main definitions:

* `BucketAccess.Decimal.Shortest.magnitude` — how many digits stand before the decimal point;
* `BucketAccess.Decimal.Shortest.atLength` — the decimal of a given number of digits, if there is
  one that reads back;
* `BucketAccess.Decimal.Numeral.ofDecimal` — the digits of a decimal and its decimal point;
* `BucketAccess.Decimal.shortest` — the digits of a number and the place of the decimal point.

Main results:

* `BucketAccess.Decimal.Shortest.readsBack_of_atLength` — the decimals that are found read back.
-/

import BucketAccess.Decimal.Double

set_option relaxedAutoImplicit false
set_option autoImplicit false

namespace BucketAccess.Decimal

/-- The digits of a positive number and the place of its decimal point: the number is
`0.d₁d₂…dₙ * 10 ^ point`, and neither the first nor the last digit is zero. -/
structure Numeral where
  /-- The digits, the first one first. -/
  digits : List Char
  /-- The place of the decimal point, counted from the left of the digits. -/
  point : Int

namespace Shortest

/-- Every positive number is at least `10 ^ (-324)`, so this shift makes it large. -/
def shift : Nat := 400

/-- How many digits stand before the decimal point; negative where zeros follow the point. -/
def magnitude (units : Nat) : Int :=
  (digits (units * Nat.pow 10 shift / unitsPerOne)).length - (shift : Int)

/-- The whole number of times that `10 ^ exponent` goes into a number. -/
def goesInto (units : Nat) (exponent : Int) : Nat :=
  units * Nat.pow 10 (-exponent).toNat / (unitsPerOne * Nat.pow 10 exponent.toNat)

/-- Whether a decimal reads back as a number. -/
def readsBack (units coefficient : Nat) (exponent : Int) : Bool :=
  Double.ofDecimal false coefficient exponent == .finite false units

/-- Whether a number lies nearer to `low * 10 ^ exponent` than to the next decimal above; a tie is
decided for the even coefficient. -/
def lowIsNearer (units low : Nat) (exponent : Int) : Bool :=
  -- both sides of the comparison with the point half-way, cleared of denominators
  let twice := 2 * units * Nat.pow 10 (-exponent).toNat
  let middle := (2 * low + 1) * unitsPerOne * Nat.pow 10 exponent.toNat
  twice < middle || (twice == middle && low % 2 == 0)

/-- Of two neighbouring coefficients the one that reads back, if one does; where both do, the lower
one if it is nearer. -/
def pick (reads : Nat → Bool) (lowIsNearer : Bool) (low : Nat) : Option Nat :=
  match reads low, reads (low + 1) with
  | true, true => some (if lowIsNearer then low else low + 1)
  | true, false => some low
  | false, true => some (low + 1)
  | false, false => none

/-- What is picked reads back. -/
theorem reads_of_pick {reads : Nat → Bool} {nearer : Bool} {low coefficient : Nat}
    (h : pick reads nearer low = some coefficient) : reads coefficient = true := by
  cases hl : reads low <;> cases hn : reads (low + 1) <;>
    simp only [pick, hl, hn, reduceCtorEq, Option.some.injEq] at h
  · exact h ▸ hn
  · exact h ▸ hl
  · cases nearer
    · exact h ▸ hn
    · exact h ▸ hl

/-- The decimal of a given number of digits that reads back, if there is one. -/
def atLength (units length : Nat) : Option (Nat × Int) :=
  let exponent := magnitude units - length
  (pick (readsBack units · exponent) (lowIsNearer units (goesInto units exponent) exponent)
    (goesInto units exponent)).map (·, exponent)

/-- The decimals that are found read back. -/
theorem readsBack_of_atLength {units length coefficient : Nat} {exponent : Int}
    (h : atLength units length = some (coefficient, exponent)) :
    readsBack units coefficient exponent = true := by
  obtain ⟨c, hc, heq⟩ := Option.map_eq_some_iff.1 h
  obtain ⟨rfl, rfl⟩ := Prod.mk.inj heq
  exact reads_of_pick hc

/-- The coefficient and exponent to write: the fewest digits that read back.  Seventeen digits
always do; the exact value stands behind them. -/
def decimal (units : Nat) : Nat × Int :=
  ((List.range 17).findSome? fun n => atLength units (n + 1)).getD
    (units * Nat.pow 5 1074, -1074)

end Shortest

/-- The digits of a decimal without the zeros at their end, and its decimal point. -/
def Numeral.ofDecimal (coefficient : Nat) (exponent : Int) : Numeral :=
  let all := Decimal.digits coefficient
  ⟨(all.reverse.dropWhile (· == '0')).reverse, exponent + all.length⟩

/-- The fewest digits that identify a positive number of units, and its decimal point. -/
def shortest (units : Nat) : Numeral :=
  let chosen := Shortest.decimal units
  .ofDecimal chosen.1 chosen.2

end BucketAccess.Decimal
