/-
**Decimal digits of natural numbers.**

A natural number is written with its decimal digits, the first of which is a zero only when the
number is zero; a row of digits is read from the left.

Main definitions:

* `BucketAccess.Decimal.digits` — the digits of a number;
* `BucketAccess.Decimal.intDigits` — the same with a sign;
* `BucketAccess.Decimal.value` — the number that a row of digits stands for.

Main results:

* `BucketAccess.Decimal.value_digits` — **what is written reads back**;
* `BucketAccess.Decimal.isDigit_of_mem_digits` — only digits are written;
* `BucketAccess.Decimal.head_digits_ne_zero` — no needless zero comes first.
-/

import BucketAccess.Text.Digit

set_option relaxedAutoImplicit false
set_option autoImplicit false

namespace BucketAccess.Decimal

open BucketAccess.Text

/-- The digit of a value below ten. -/
def digitChar (n : Nat) : Char :=
  Char.ofNat (48 + n)

/-- The value of a digit. -/
def digitValue (c : Char) : Nat :=
  c.toNat - 48

/-- The decimal digits of a number. -/
def digits (n : Nat) : List Char :=
  if n < 10 then [digitChar n] else digits (n / 10) ++ [digitChar (n % 10)]
termination_by n
decreasing_by omega

/-- The number that a row of digits stands for. -/
def value (s : List Char) : Nat :=
  s.foldl (fun n c => 10 * n + digitValue c) 0

/-- The decimal digits of a whole number, with a minus sign in front of a negative one. -/
def intDigits (i : Int) : List Char :=
  (if i < 0 then ['-'] else []) ++ digits i.natAbs

/-! ### One digit -/

theorem digitValue_digitChar {n : Nat} (h : n < 10) : digitValue (digitChar n) = n := by
  have hall : ∀ m : Fin 10, digitValue (digitChar m.val) = m.val := by decide
  exact hall ⟨n, h⟩

theorem isDigit_digitChar {n : Nat} (h : n < 10) : isDigit (digitChar n) = true := by
  have hall : ∀ m : Fin 10, isDigit (digitChar m.val) = true := by decide
  exact hall ⟨n, h⟩

theorem digitChar_eq_zero {n : Nat} (h : n < 10) (hz : digitChar n = '0') : n = 0 := by
  have hall : ∀ m : Fin 10, digitChar m.val = '0' → m.val = 0 := by decide
  exact hall ⟨n, h⟩ hz

/-! ### Rows of digits -/

theorem digits_of_lt {n : Nat} (h : n < 10) : digits n = [digitChar n] := by
  rw [digits, if_pos h]

theorem digits_of_ge {n : Nat} (h : 10 ≤ n) :
    digits n = digits (n / 10) ++ [digitChar (n % 10)] := by
  rw [digits, if_neg (by omega)]

theorem value_append_digit (s : List Char) (c : Char) :
    value (s ++ [c]) = 10 * value s + digitValue c := by
  simp [value]

theorem digits_ne_nil (n : Nat) : digits n ≠ [] := by
  by_cases h : n < 10
  · simp [digits_of_lt h]
  · simp [digits_of_ge (by omega : 10 ≤ n)]

/-- **What is written reads back.** -/
theorem value_digits (n : Nat) : value (digits n) = n := by
  induction n using Nat.strongRecOn with
  | ind n ih =>
      by_cases h : n < 10
      · simp [digits_of_lt h, value, digitValue_digitChar h]
      · have hm : n % 10 < 10 := Nat.mod_lt _ (by decide)
        rw [digits_of_ge (by omega), value_append_digit, ih (n / 10) (by omega),
          digitValue_digitChar hm]
        omega

/-- Only digits are written. -/
theorem isDigit_of_mem_digits {n : Nat} {c : Char} (h : c ∈ digits n) : isDigit c = true := by
  induction n using Nat.strongRecOn with
  | ind n ih =>
      by_cases hn : n < 10
      · simp only [digits_of_lt hn, List.mem_singleton] at h
        exact h ▸ isDigit_digitChar hn
      · rw [digits_of_ge (by omega), List.mem_append, List.mem_singleton] at h
        rcases h with h | rfl
        · exact ih (n / 10) (by omega) h
        · exact isDigit_digitChar (Nat.mod_lt _ (by decide))

/-- No needless zero comes first. -/
theorem head_digits_ne_zero {n : Nat} (h : 0 < n) : (digits n).head? ≠ some '0' := by
  induction n using Nat.strongRecOn with
  | ind n ih =>
      by_cases hn : n < 10
      · simp only [digits_of_lt hn, List.head?_cons, ne_eq, Option.some.injEq]
        intro hz
        have := digitChar_eq_zero hn hz
        omega
      · have hq := ih (n / 10) (by omega) (by omega)
        rw [digits_of_ge (by omega)]
        cases hd : digits (n / 10) with
        | nil => exact absurd hd (digits_ne_nil _)
        | cons c r => simpa [hd] using hq

end BucketAccess.Decimal
