/-
**Numbers in a document.**

A number is a whole part without needless zeros in front, and after it perhaps a fraction and an
exponent, each of which needs at least one digit; what only looks like the start of a fraction or
an exponent is left standing after the number.  A number with neither is whole and kept exactly,
however large it is, up to a limit on its digits; all others become the nearest double-precision
number.

Main definitions:

* `BucketAccess.Json.Numeral` — the parts of a number as they are written;
* `BucketAccess.Json.Numeral.take?` — the number at the front of a text;
* `BucketAccess.Json.Numeral.value` — what a number stands for.

Main results:

* `BucketAccess.Json.Numeral.length_lt_of_take?` — a number uses up text.
-/

import BucketAccess.Json.Reading
import BucketAccess.Json.Value

set_option relaxedAutoImplicit false
set_option autoImplicit false

namespace BucketAccess.Json

open BucketAccess.Text (isDigit)

/-- The parts of a number as they are written. -/
structure Numeral where
  /-- Whether a minus sign comes first. -/
  negative : Bool
  /-- The digits before the point. -/
  whole : List Char
  /-- The digits after the point; none where there is no point. -/
  fraction : List Char
  /-- The exponent, if one is written. -/
  exponent : Option Int
  deriving DecidableEq

namespace Numeral

/-! ### The parts -/

/-- A minus sign, if there is one. -/
def takeSign : List Char → Bool × List Char
  | '-' :: rest => (true, rest)
  | s => (false, s)

/-- The digits before the point: a single zero, or digits of which the first is no zero. -/
def takeWhole? : List Char → Option (List Char × List Char)
  | [] => none
  | c :: rest =>
      if c = '0' then some (['0'], rest)
      else if isDigit c then some (c :: rest.takeWhile isDigit, rest.dropWhile isDigit)
      else none

/-- The digits after the point, if a point with a digit behind it is there. -/
def takeFraction : List Char → List Char × List Char
  | '.' :: rest =>
      if (rest.takeWhile isDigit).isEmpty then ([], '.' :: rest)
      else (rest.takeWhile isDigit, rest.dropWhile isDigit)
  | s => ([], s)

/-- The sign of an exponent, if there is one. -/
def takeExponentSign : List Char → Bool × List Char
  | '+' :: rest => (false, rest)
  | s => takeSign s

/-- The exponent, if a letter `e` of either case with a number behind it is there. -/
def takeExponent : List Char → Option Int × List Char
  | [] => (none, [])
  | c :: rest =>
      if c = 'e' ∨ c = 'E' then
        let (negative, more) := takeExponentSign rest
        let size : Int := Decimal.value (more.takeWhile isDigit)
        if (more.takeWhile isDigit).isEmpty then (none, c :: rest)
        else (some (if negative then -size else size), more.dropWhile isDigit)
      else (none, c :: rest)

/-- The number at the front of a text. -/
def take? (s : List Char) : Option (Numeral × List Char) :=
  let (negative, afterSign) := takeSign s
  (takeWhole? afterSign).map fun (whole, afterWhole) =>
    let (fraction, afterFraction) := takeFraction afterWhole
    let (exponent, rest) := takeExponent afterFraction
    (⟨negative, whole, fraction, exponent⟩, rest)

/-! ### What it stands for -/

/-- What a number stands for. -/
def value (n : Numeral) : Except (Fault Nat) Value :=
  if n.fraction.isEmpty && n.exponent.isNone then
    if maxDigits < n.whole.length then .error (.tooManyDigits n.whole.length)
    else
      let size : Int := Decimal.value n.whole
      .ok (.int (if n.negative then -size else size))
  else
    .ok (.real (.ofDecimal n.negative (Decimal.value (n.whole ++ n.fraction))
      (n.exponent.getD 0 - n.fraction.length)))

/-! ### Progress -/

theorem length_takeSign_le (s : List Char) : (takeSign s).2.length ≤ s.length := by
  unfold takeSign
  split <;> simp

theorem length_takeExponentSign_le (s : List Char) :
    (takeExponentSign s).2.length ≤ s.length := by
  unfold takeExponentSign
  split
  · simp
  · exact length_takeSign_le s

theorem length_lt_of_takeWhole? {s whole rest : List Char}
    (h : takeWhole? s = some (whole, rest)) : rest.length < s.length := by
  cases s with
  | nil => simp [takeWhole?] at h
  | cons c r =>
      have hdrop := (List.dropWhile_suffix isDigit (l := r)).length_le
      simp only [takeWhole?] at h
      split at h
      · simp_all
      · split at h
        · simp only [Option.some.injEq, Prod.mk.injEq] at h
          rw [← h.2, List.length_cons]
          omega
        · simp at h

theorem length_takeFraction_le (s : List Char) : (takeFraction s).2.length ≤ s.length := by
  unfold takeFraction
  split
  · next rest =>
      have hdrop := (List.dropWhile_suffix isDigit (l := rest)).length_le
      split
      · simp
      · simp only [List.length_cons]
        omega
  · simp

theorem length_takeExponent_le (s : List Char) : (takeExponent s).2.length ≤ s.length := by
  cases s with
  | nil => simp [takeExponent]
  | cons c rest =>
      have hsign := length_takeExponentSign_le rest
      have hdrop := (List.dropWhile_suffix isDigit (l := (takeExponentSign rest).2)).length_le
      simp only [takeExponent]
      split
      · split
        · simp
        · simp only [List.length_cons]
          omega
      · simp

/-- A number uses up text. -/
theorem length_lt_of_take? {s rest : List Char} {n : Numeral} (h : take? s = some (n, rest)) :
    rest.length < s.length := by
  simp only [take?, Option.map_eq_some_iff, Prod.mk.injEq, Prod.exists] at h
  obtain ⟨whole, afterWhole, hwhole, _, hrest⟩ := h
  have h₁ := length_takeSign_le s
  have h₂ := length_lt_of_takeWhole? hwhole
  have h₃ := length_takeFraction_le afterWhole
  have h₄ := length_takeExponent_le (takeFraction afterWhole).2
  rw [← hrest]
  omega

end Numeral

end BucketAccess.Json
