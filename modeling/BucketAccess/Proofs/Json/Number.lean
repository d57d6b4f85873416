/-
**Numbers read back.**

A number that is written out is read part by part, and each part ends where the next one begins.
What follows the number has to be something that does not go on a number, such as a comma, a blank
or a closing bracket.

Main definitions:

* `BucketAccess.Json.EndsNumber` — text that does not go on a number.

Main results:

* `BucketAccess.Json.Numeral.take?_text` — **the parts of a number are found again**;
* `BucketAccess.Json.Numeral.take?_intDigits`, `BucketAccess.Json.Numeral.exists_take?_render` —
  whole numbers and rounded numbers read back.
-/

import BucketAccess.Json.Number
import BucketAccess.Proofs.Decimal.Layout

set_option relaxedAutoImplicit false
set_option autoImplicit false

namespace BucketAccess.Json

open BucketAccess.Decimal
open BucketAccess.Text (isDigit)

/-- Text that does not go on a number. -/
def EndsNumber (rest : List Char) : Prop :=
  ∀ c ∈ rest.head?, isDigit c = false ∧ c ≠ '.' ∧ c ≠ 'e' ∧ c ≠ 'E'

/-- A number ends where the text ends. -/
theorem endsNumber_nil : EndsNumber [] := by
  simp [EndsNumber]

theorem endsNumber_cons {c : Char} (hdigit : isDigit c = false) (hpoint : c ≠ '.')
    (hlower : c ≠ 'e') (hupper : c ≠ 'E') (rest : List Char) : EndsNumber (c :: rest) := by
  intro d hd
  obtain rfl : c = d := by simpa using hd
  exact ⟨hdigit, hpoint, hlower, hupper⟩

namespace Numeral

/-! ### Parts -/

/-- A row of digits ends where no digit follows. -/
theorem takeWhile_digits {s rest : List Char} (hs : ∀ c ∈ s, isDigit c = true)
    (hrest : ∀ c ∈ rest.head?, isDigit c = false) : (s ++ rest).takeWhile isDigit = s := by
  rw [List.takeWhile_append_of_pos hs]
  cases rest with
  | nil => simp
  | cons c more => simp [hrest c rfl]

theorem dropWhile_digits {s rest : List Char} (hs : ∀ c ∈ s, isDigit c = true)
    (hrest : ∀ c ∈ rest.head?, isDigit c = false) : (s ++ rest).dropWhile isDigit = rest := by
  rw [List.dropWhile_append_of_pos hs]
  cases rest with
  | nil => simp
  | cons c more => simp [hrest c rfl]

theorem takeSign_append (negative : Bool) {s : List Char} (h : s.head? ≠ some '-') :
    takeSign ((if negative then ['-'] else []) ++ s) = (negative, s) := by
  cases negative with
  | true => rfl
  | false =>
      unfold takeSign
      split
      · next rest hs =>
          obtain rfl : s = '-' :: rest := hs
          exact absurd rfl h
      · rfl

theorem takeWhole?_append {whole rest : List Char} (hne : whole ≠ [])
    (hdigits : ∀ c ∈ whole, isDigit c = true) (hhead : whole.head? = some '0' → whole = ['0'])
    (hrest : ∀ c ∈ rest.head?, isDigit c = false) :
    takeWhole? (whole ++ rest) = some (whole, rest) := by
  obtain ⟨c, more, rfl⟩ := List.exists_cons_of_ne_nil hne
  by_cases hc : c = '0'
  · obtain rfl := hc
    obtain rfl : more = [] := by simpa using hhead rfl
    rfl
  · have hmore : ∀ d ∈ more, isDigit d = true := by
      intro d hd
      exact hdigits d (List.mem_cons_of_mem c hd)
    simp [takeWhole?, hc, hdigits c (by simp), takeWhile_digits hmore hrest,
      dropWhile_digits hmore hrest]

theorem takeFraction_append {fraction rest : List Char}
    (hdigits : ∀ c ∈ fraction, isDigit c = true)
    (hrest : ∀ c ∈ rest.head?, isDigit c = false ∧ c ≠ '.') :
    takeFraction (Parts.fractionText fraction ++ rest) = (fraction, rest) := by
  cases fraction with
  | nil =>
      unfold takeFraction
      split
      · next more hs =>
          obtain rfl : rest = '.' :: more := hs
          exact absurd rfl (hrest '.' rfl).2
      · rfl
  | cons c more =>
      have hdigit : ∀ d ∈ rest.head?, isDigit d = false := by
        intro d hd
        exact (hrest d hd).1
      have htake := takeWhile_digits hdigits hdigit
      have hdrop := dropWhile_digits hdigits hdigit
      simp only [List.cons_append] at htake hdrop
      simp [Parts.fractionText, takeFraction, htake, hdrop]

theorem takeExponent_append {exponent : Option (Bool × List Char)} {rest : List Char}
    (hne : ∀ e, exponent = some e → e.2 ≠ [])
    (hdigits : ∀ e, exponent = some e → ∀ c ∈ e.2, isDigit c = true) (hrest : EndsNumber rest) :
    takeExponent (Parts.exponentText exponent ++ rest) = (Parts.power? exponent, rest) := by
  have hdigit : ∀ d ∈ rest.head?, isDigit d = false := by
    intro d hd
    exact (hrest d hd).1
  cases exponent with
  | none =>
      cases rest with
      | nil => rfl
      | cons c more =>
          obtain ⟨-, -, hlower, hupper⟩ := hrest c rfl
          simp [Parts.exponentText, Parts.power?, takeExponent, hlower, hupper]
  | some e =>
      obtain ⟨negative, size⟩ := e
      have hsize : size ≠ [] := hne _ rfl
      have hall : ∀ c ∈ size, isDigit c = true := hdigits _ rfl
      have hsign : takeExponentSign ((if negative then '-' else '+') :: (size ++ rest)) =
          (negative, size ++ rest) := by
        cases negative <;> rfl
      simp [Parts.exponentText, Parts.power?, takeExponent, hsign, takeWhile_digits hall hdigit,
        dropWhile_digits hall hdigit, hsize]

theorem head_exponentText {exponent : Option (Bool × List Char)} {rest : List Char}
    (hrest : EndsNumber rest) :
    ∀ c ∈ (Parts.exponentText exponent ++ rest).head?, isDigit c = false ∧ c ≠ '.' := by
  intro c hc
  cases exponent with
  | none => exact ⟨(hrest c hc).1, (hrest c hc).2.1⟩
  | some e =>
      obtain rfl : 'e' = c := by simpa [Parts.exponentText] using hc
      decide

theorem head_fractionText (fraction : List Char) {exponent : Option (Bool × List Char)}
    {rest : List Char} (hrest : EndsNumber rest) :
    ∀ c ∈ (Parts.fractionText fraction ++ (Parts.exponentText exponent ++ rest)).head?,
      isDigit c = false := by
  intro c hc
  cases fraction with
  | nil => exact (head_exponentText hrest c hc).1
  | cons d more =>
      obtain rfl : '.' = c := by simpa [Parts.fractionText] using hc
      decide

/-! ### Numbers -/

/-- **The parts of a number are found again.** -/
theorem take?_text {p : Parts} (h : p.WellFormed) (negative : Bool) {rest : List Char}
    (hrest : EndsNumber rest) : take? ((if negative then ['-'] else []) ++ (p.text ++ rest)) =
      some (⟨negative, p.whole, p.fraction, Parts.power? p.exponent⟩, rest) := by
  have hsign : (p.text ++ rest).head? ≠ some '-' := by
    obtain ⟨c, more, hwhole⟩ := List.exists_cons_of_ne_nil h.whole_ne_nil
    have hc := h.isDigit_whole c (by simp [hwhole])
    rintro hminus
    obtain rfl : c = '-' := by simpa [Parts.text, hwhole] using hminus
    exact absurd hc (by decide)
  rw [take?, takeSign_append negative hsign]
  simp only [Parts.text, List.append_assoc]
  rw [takeWhole?_append h.whole_ne_nil h.isDigit_whole h.head_whole
    (head_fractionText p.fraction hrest), Option.map_some]
  simp only [takeFraction_append h.isDigit_fraction (head_exponentText hrest),
    takeExponent_append h.exponent_ne_nil h.isDigit_exponent hrest]

/-- Whole numbers are found again. -/
theorem take?_intDigits (i : Int) {rest : List Char} (hrest : EndsNumber rest) :
    take? (intDigits i ++ rest) = some (⟨decide (i < 0), digits i.natAbs, [], none⟩, rest) := by
  have hparts : Parts.WellFormed ⟨digits i.natAbs, [], none⟩ := by
    refine ⟨digits_ne_nil _, fun c hc => isDigit_of_mem_digits hc, fun hzero => ?_, by simp,
      by simp, by simp⟩
    rcases Nat.eq_zero_or_pos i.natAbs with hi | hpos
    · rw [hi]
      exact digits_of_lt (by decide)
    · exact absurd hzero (head_digits_ne_zero hpos)
  have h := take?_text hparts (decide (i < 0)) hrest
  simpa [intDigits, Parts.text, Parts.fractionText, Parts.exponentText, Parts.power?] using h

theorem value_intDigits {i : Int} (h : (digits i.natAbs).length ≤ maxDigits) :
    value ⟨decide (i < 0), digits i.natAbs, [], none⟩ = .ok (.int i) := by
  have hsign : (if i < 0 then -(i.natAbs : Int) else i.natAbs) = i := by
    split <;> omega
  simp only [value, List.isEmpty_nil, Option.isNone_none, Bool.and_self, if_true,
    if_neg (Nat.not_lt_of_le h), value_digits, decide_eq_true_eq, hsign]

/-- A number that is not whole. -/
theorem value_of_spells {p : Parts} {units : Nat} (h : p.Spells units) (negative : Bool) :
    value ⟨negative, p.whole, p.fraction, Parts.power? p.exponent⟩ =
      .ok (.real (.finite negative units)) := by
  have hreal : (p.fraction.isEmpty && (Parts.power? p.exponent).isNone) = false := by
    rcases h.fractional with hfraction | hexponent
    · rw [List.isEmpty_eq_false_iff.2 hfraction, Bool.false_and]
    · obtain ⟨e, he⟩ := Option.ne_none_iff_exists'.1 hexponent
      rw [he, Parts.power?, Option.isNone_some, Bool.and_false]
  rw [value, if_neg (by simp only [hreal, Bool.false_eq_true, not_false_eq_true]),
    Double.ofDecimal_of_eq_finite h.reads negative]

/-- **Rounded numbers read back.** -/
theorem exists_take?_render (infinity : String) {negative : Bool} {units : Nat}
    (h : (Double.finite negative units).IsRounded) {rest : List Char} (hrest : EndsNumber rest) :
    ∃ n, take? ((plainLayout infinity).render (.finite negative units) ++ rest) = some (n, rest) ∧
      n.value = .ok (.real (.finite negative units)) := by
  obtain ⟨hrepresentable, hrange⟩ : Representable units ∧ units < Double.rangeEnd := by
    cases h with
    | finite _ hrepresentable hrange => exact ⟨hrepresentable, hrange⟩
  obtain ⟨p, htext, hspells⟩ := exists_spells_size (plainLayout infinity) hrepresentable hrange
  refine ⟨⟨negative, p.whole, p.fraction, Parts.power? p.exponent⟩, ?_, value_of_spells hspells _⟩
  rw [Layout.render, htext, List.append_assoc]
  exact take?_text hspells.toWellFormed negative hrest

end Numeral

end BucketAccess.Json
