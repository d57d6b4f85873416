/-
**How numbers are laid out.**

The digits of a number are laid out around a decimal point when the first of them stands near it,
and with an exponent otherwise.  The decisions are the fields of one record.

Main definitions:

* `BucketAccess.Decimal.Layout` — the decisions;
* `BucketAccess.Decimal.Layout.render` — a number laid out;
* `BucketAccess.Decimal.plainLayout` — the layout of the numbers in documents and messages.
-/

import BucketAccess.Decimal.Shortest

set_option relaxedAutoImplicit false
set_option autoImplicit false

namespace BucketAccess.Decimal

/-- The decisions of a number format. -/
structure Layout where
  /-- The least place of the decimal point for which no exponent is written. -/
  pointFrom : Int
  /-- The greatest place of the decimal point for which no exponent is written. -/
  pointTo : Int
  /-- The least number of digits of an exponent. -/
  exponentWidth : Nat
  /-- The text of infinity. -/
  infinity : String

/-- Numbers are written without an exponent from `0.0001` up to sixteen digits before the point,
whole numbers keep one zero after the point, and exponents have a sign and two digits or more. -/
def plainLayout (infinity : String) : Layout :=
  ⟨-3, 16, 2, infinity⟩

/-- Digits with zeros in front of them up to a width. -/
def padded (width : Nat) (s : List Char) : List Char :=
  List.replicate (width - s.length) '0' ++ s

/-- Digits around a decimal point, with a zero where nothing else would stand beside it. -/
def aroundPoint (n : Numeral) : List Char :=
  if n.point ≤ 0 then
    '0' :: '.' :: (List.replicate (-n.point).toNat '0' ++ n.digits)
  else
    -- digits may run out before the point is reached
    let before := n.digits.take n.point.toNat
    let after := n.digits.drop n.point.toNat
    before ++ List.replicate (n.point.toNat - n.digits.length) '0' ++
      '.' :: (if after.isEmpty then ['0'] else after)

/-- Digits with an exponent: one digit, the point if more follow, and the power of ten. -/
def withExponent (layout : Layout) (n : Numeral) : List Char :=
  let exponent := n.point - 1
  let mantissa := match n.digits with
    | [] => []
    | [d] => [d]
    | d :: more => d :: '.' :: more
  mantissa ++ 'e' :: (if exponent < 0 then '-' else '+') ::
    padded layout.exponentWidth (digits exponent.natAbs)

/-- The size of a finite number laid out. -/
def Layout.size (layout : Layout) (units : Nat) : List Char :=
  if units = 0 then ['0', '.', '0']
  else
    let n := shortest units
    if layout.pointFrom ≤ n.point && n.point ≤ layout.pointTo then aroundPoint n
    else withExponent layout n

/-- A number laid out. -/
def Layout.render (layout : Layout) : Double → List Char
  | .finite negative units => (if negative then ['-'] else []) ++ layout.size units
  | .infinite negative => (if negative then ['-'] else []) ++ layout.infinity.toList

end BucketAccess.Decimal
