/-
**What an id can be told apart by.**

An id is a word, a time and a number, written one behind the other with nothing in between.  As long
as the times have the same number of digits, ids with the same word are told apart by their times
and numbers.  Ids with different words can be the same: where one word is the other one with digits
behind it, these digits can be taken for the beginning of a time.

Main definitions:

* `BucketAccess.Sid.InEra` — the times whose milliseconds have thirteen digits;
* `BucketAccess.Sid.RunsInto` — words that go on as another word followed by a time.

Main results:

* `BucketAccess.Sid.text_inj` — **ids with the same word**;
* `BucketAccess.Sid.runsInto_of_text_eq`, `BucketAccess.Sid.exists_text_eq_of_runsInto` — **ids with
  different words**;
* `BucketAccess.Sid.allNonempty_text` — an id consists of letters and digits when its word does;
* `BucketAccess.Sid.exists_millis?_eq` — there is a time for all milliseconds with thirteen digits.
-/

import BucketAccess.Proofs.Decimal.Digits
import BucketAccess.Sid
import Mathlib.Data.List.Basic

set_option relaxedAutoImplicit false
set_option autoImplicit false

namespace BucketAccess.Sid

open BucketAccess.Decimal
open BucketAccess.Text (isAlnum isDigit allNonempty)

/-! ### Times -/

/-- How many digits the milliseconds of a time have. -/
def width : Nat := 13

/-- The milliseconds with thirteen digits. -/
def IsWide (millis : Nat) : Prop :=
  10 ^ (width - 1) ≤ millis ∧ millis < 10 ^ width

/-- The times whose milliseconds have thirteen digits, as all times from the year 2001 to the year
2286. -/
def InEra (now : Double) : Prop :=
  ∃ millis : Nat, millis? now = some millis ∧ IsWide millis

theorem IsWide.length_digits {millis : Nat} (h : IsWide millis) :
    (digits millis).length = width := by
  have hle : (digits millis).length ≤ width := length_digits_le (by decide) h.2
  have hlt : width - 1 < (digits millis).length := lt_length_digits h.1
  unfold width at *
  omega

/-- Rows of thirteen digits of which the first is no zero. -/
theorem isWide_value {s : List Char} (hlength : s.length = width)
    (hdigits : ∀ c ∈ s, isDigit c = true) (hhead : s.head? ≠ some '0') : IsWide (value s) := by
  have hne : s ≠ [] := by
    rintro rfl
    exact absurd hlength (by decide)
  refine ⟨?_, hlength ▸ value_lt hdigits⟩
  by_contra hsmall
  have hle := length_digits_le (by decide) (Nat.lt_of_not_le hsmall)
  rw [digits_value hne hdigits hhead, hlength] at hle
  exact absurd hle (by decide)

/-- The two great powers, with exponents that stand for themselves so that nothing computes them. -/
theorem exists_unitsPerOne_eq : ∃ k, 1064 = k ∧ unitsPerOne = 2 ^ (k + 10) :=
  ⟨1064, rfl, by decide +kernel⟩

theorem exists_rangeEnd_eq : ∃ k, 2098 = k ∧ Double.rangeEnd = 2 ^ k :=
  ⟨2098, rfl, by unfold Double.rangeEnd; decide +kernel⟩

/-- A product whose rounding is known.  The rounding is a variable here, too. -/
theorem truncTimes_eq_some {round : Bool → Nat → Nat → Double} {one units factor product : Nat}
    (hround : Double.ofRatio = round) (hone : unitsPerOne = one)
    (h : round false (units * factor) one = .finite false product) :
    (Double.finite false units).truncTimes factor = some ((product / one : Nat) : Int) := by
  rw [Double.truncTimes.eq_def, hround, hone]
  simp only [h, Bool.false_eq_true, if_false, Int.natCast_ediv]

/-- The multiples of 1/1024 of a second have exact milliseconds, if they are not too large. -/
theorem millis?_ticks {ticks k : Nat} (h : 125 * ticks ≤ 2 ^ 53) (hk : 1064 = k)
    (hone : unitsPerOne = 2 ^ (k + 10)) :
    millis? (.finite false (ticks * 2 ^ k)) = some ((1000 * ticks / 1024 : Nat) : Int) := by
  obtain ⟨m, hm, hend⟩ := exists_rangeEnd_eq
  have hproduct : ticks * 2 ^ k * 1000 = 125 * ticks * 2 ^ (k + 3) := by ring
  have hunits : unitsOfRatio (ticks * 2 ^ k * 1000) (2 ^ (k + 10)) =
      125 * ticks * 2 ^ (k + 3) := by
    refine unitsOfRatio_of_representable (representable_mul_pow h _) (Nat.two_pow_pos _) ?_
    rw [hproduct, hone]
  have hrange : 125 * ticks * 2 ^ (k + 3) < Double.rangeEnd :=
    calc 125 * ticks * 2 ^ (k + 3) ≤ 2 ^ 53 * 2 ^ (k + 3) := Nat.mul_le_mul_right _ h
      _ = 2 ^ (53 + (k + 3)) := (Nat.pow_add 2 53 (k + 3)).symm
      _ < 2 ^ m := Nat.pow_lt_pow_right (by decide) (by omega)
      _ = Double.rangeEnd := hend.symm
  have hround : Double.ofRatio false (ticks * 2 ^ k * 1000) (2 ^ (k + 10)) =
      .finite false (125 * ticks * 2 ^ (k + 3)) := by
    rw [Double.ofRatio, hunits, Double.ofUnits_eq, if_pos hrange]
  have hcut : 125 * ticks * 2 ^ (k + 3) / 2 ^ (k + 10) = 1000 * ticks / 1024 := by
    have hleft : 125 * ticks * 2 ^ (k + 3) = 1000 * ticks * 2 ^ k := by ring
    have hright : 2 ^ (k + 10) = 1024 * 2 ^ k := by ring
    rw [hleft, hright, Nat.mul_div_mul_right _ _ (Nat.two_pow_pos k)]
  rw [millis?, truncTimes_eq_some rfl hone hround, hcut]

/-- There is a time for all milliseconds with thirteen digits. -/
theorem exists_millis?_eq {millis : Nat} (h : IsWide millis) :
    ∃ now, millis? now = some (millis : Int) := by
  have hlate : millis < 10 ^ 13 := h.2
  -- the first of these multiples that is late enough
  have hticks : 1000 * ((1024 * millis + 999) / 1000) / 1024 = millis := by omega
  have hfew : 125 * ((1024 * millis + 999) / 1000) ≤ 2 ^ 53 := by omega
  obtain ⟨k, hk, hone⟩ := exists_unitsPerOne_eq
  refine ⟨_, (millis?_ticks hfew hk hone).trans ?_⟩
  rw [hticks]

/-! ### Ids with the same word -/

variable {p q lead : String} {millis millis' number number' : Nat}

theorem toList_text (lead : String) (millis number : Nat) :
    (text lead millis number).toList = lead.toList ++ (digits millis ++ digits number) := by
  simp [text, intDigits]

/-- **Ids with the same word** have the same time and the same number. -/
theorem text_inj (hmillis : IsWide millis) (hmillis' : IsWide millis')
    (h : text lead millis number = text lead millis' number') :
    millis = millis' ∧ number = number' := by
  have hlist := congrArg String.toList h
  rw [toList_text, toList_text, List.append_cancel_left_eq] at hlist
  have hlength : (digits millis).length = (digits millis').length := by
    rw [hmillis.length_digits, hmillis'.length_digits]
  obtain ⟨htime, hnumber⟩ := List.append_inj hlist hlength
  exact ⟨digits_injective htime, digits_injective hnumber⟩

/-- An id consists of letters and digits when its word does. -/
theorem allNonempty_text (hlead : allNonempty isAlnum lead.toList = true) (millis number : Nat) :
    allNonempty isAlnum (text lead millis number).toList = true := by
  simp only [allNonempty, Bool.and_eq_true, Bool.not_eq_true', List.isEmpty_eq_false_iff,
    List.all_eq_true] at hlead ⊢
  rw [toList_text]
  refine ⟨?_, ?_⟩
  · simp [hlead.1]
  · intro c hc
    have hdigit : ∀ n, c ∈ digits n → isAlnum c = true := by
      intro n hn
      simp [isAlnum, isDigit_of_mem_digits hn]
    rcases List.mem_append.1 hc with hc | hc
    · exact hlead.2 c hc
    · rcases List.mem_append.1 hc with hc | hc
      · exact hdigit millis hc
      · exact hdigit number hc

/-! ### Ids with different words -/

/-- A word goes on as another one followed by digits that can be the beginning of a time.  If there
are more of them than a time has, the others can be the beginning of a number. -/
def RunsInto (p q : String) : Prop :=
  ∃ more, q.toList = p.toList ++ more ∧ more ≠ [] ∧ (∀ c ∈ more, isDigit c = true) ∧
    more.head? ≠ some '0' ∧ (more.drop width).head? ≠ some '0'

/-- What stands behind a word at the place of a time and a number. -/
theorem runsInto_of_digits_eq {more rest : List Char} (hq : q.toList = p.toList ++ more)
    (hne : more ≠ []) (hmillis : IsWide millis) (hnumber : 0 < number)
    (h : digits millis ++ digits number = more ++ rest) : RunsInto p q := by
  have hpos : 0 < millis := Nat.lt_of_lt_of_le (by decide) hmillis.1
  refine ⟨more, hq, hne, ?_, ?_, ?_⟩
  · intro c hc
    have hmem : c ∈ digits millis ++ digits number := by
      rw [h]
      exact List.mem_append_left _ hc
    rcases List.mem_append.1 hmem with hc | hc
    · exact isDigit_of_mem_digits hc
    · exact isDigit_of_mem_digits hc
  · have hhead := congrArg List.head? h
    rw [List.head?_append_of_ne_nil _ (digits_ne_nil millis),
      List.head?_append_of_ne_nil _ hne] at hhead
    rw [← hhead]
    exact head_digits_ne_zero hpos
  · have hdrop := congrArg (List.drop width) h
    rw [List.drop_left' hmillis.length_digits, List.drop_append] at hdrop
    cases hbehind : more.drop width with
    | nil => simp
    | cons c others =>
        rw [hbehind] at hdrop
        have hhead := head_digits_ne_zero hnumber
        rw [hdrop] at hhead
        simpa using hhead

/-- Ids with different words are the same only if one of the words runs into the other one. -/
theorem runsInto_of_text_eq (hne : p ≠ q) (hmillis : IsWide millis) (hmillis' : IsWide millis')
    (hnumber : 0 < number) (hnumber' : 0 < number')
    (h : text p millis number = text q millis' number') : RunsInto p q ∨ RunsInto q p := by
  have hlist := congrArg String.toList h
  rw [toList_text, toList_text] at hlist
  have hsome : ∀ {more : List Char} {p q : String}, p ≠ q → q.toList = p.toList ++ more →
      more ≠ [] := by
    rintro more p q hne hq rfl
    rw [List.append_nil] at hq
    exact hne (String.toList_inj.1 hq).symm
  rcases List.append_eq_append_iff.1 hlist with ⟨more, hq, hdigits⟩ | ⟨more, hp, hdigits⟩
  · exact .inl (runsInto_of_digits_eq hq (hsome hne hq) hmillis hnumber hdigits)
  · exact .inr (runsInto_of_digits_eq hp (hsome hne.symm hp) hmillis' hnumber' hdigits)

/-- A row of digits is a time and a number, if no zero stands where one of them begins. -/
theorem exists_digits_append_eq {row : List Char} (hdigits : ∀ c ∈ row, isDigit c = true)
    (hlength : width < row.length) (hhead : row.head? ≠ some '0')
    (hbehind : (row.drop width).head? ≠ some '0') :
    ∃ millis number, IsWide millis ∧ digits millis ++ digits number = row ∧
      digits number = row.drop width := by
  have hfront : ∀ c ∈ row.take width, isDigit c = true := by
    intro c hc
    exact hdigits c (List.mem_of_mem_take hc)
  have hend : ∀ c ∈ row.drop width, isDigit c = true := by
    intro c hc
    exact hdigits c (List.mem_of_mem_drop hc)
  have htake : (row.take width).length = width := by
    rw [List.length_take]
    omega
  have htakeNe : row.take width ≠ [] := by
    intro hnil
    rw [hnil] at htake
    exact absurd htake (by decide)
  have hdropNe : row.drop width ≠ [] := by
    intro hnil
    have hle := List.drop_eq_nil_iff.1 hnil
    omega
  have hheadTake : (row.take width).head? ≠ some '0' := by
    rw [List.head?_take, if_neg (by decide)]
    exact hhead
  have hnumber := digits_value hdropNe hend hbehind
  refine ⟨_, _, isWide_value htake hfront hheadTake, ?_, hnumber⟩
  rw [digits_value htakeNe hfront hheadTake, hnumber, List.take_append_drop]

/-- **Words that run into one another have an id in common.** -/
theorem exists_text_eq_of_runsInto (h : RunsInto p q) :
    ∃ millis millis' number, IsWide millis ∧ IsWide millis' ∧ 1 < number ∧
      text p millis number = text q millis' 1 := by
  obtain ⟨more, hq, hne, hdigits, hhead, hbehind⟩ := h
  have hsome : 0 < more.length := List.length_pos_iff.2 hne
  obtain ⟨ones, hones⟩ : ∃ ones, ones = List.replicate (width + 1) '1' := ⟨_, rfl⟩
  have honesDigits : ∀ c ∈ ones, isDigit c = true := by
    intro c hc
    rw [hones] at hc
    rw [List.eq_of_mem_replicate hc]
    decide
  -- behind the longer word there are ones only, which are a time and the number one
  obtain ⟨millis', number', hwide', hrow', hnumber'⟩ :=
    exists_digits_append_eq honesDigits (by rw [hones]; decide) (by rw [hones]; decide)
      (by rw [hones]; decide)
  have hone : number' = 1 := by
    refine digits_injective ?_
    rw [hnumber', hones]
    decide +kernel
  -- behind the shorter one there are the digits of the longer one in front of them
  have hall : ∀ c ∈ more ++ ones, isDigit c = true := by
    intro c hc
    rcases List.mem_append.1 hc with hc | hc
    · exact hdigits c hc
    · exact honesDigits c hc
  have hlength : width + 1 < (more ++ ones).length := by
    rw [List.length_append, hones, List.length_replicate]
    omega
  have hheadRow : (more ++ ones).head? ≠ some '0' := by
    rw [List.head?_append_of_ne_nil _ hne]
    exact hhead
  have hbehindRow : ((more ++ ones).drop width).head? ≠ some '0' := by
    rw [List.drop_append]
    cases hmore : more.drop width with
    | nil =>
        rw [hones, List.nil_append, List.drop_replicate, List.head?_replicate, if_neg (by omega)]
        decide
    | cons c others =>
        rw [hmore] at hbehind
        simpa using hbehind
  obtain ⟨millis, number, hwide, hrow, hnumber⟩ :=
    exists_digits_append_eq hall (by omega) hheadRow hbehindRow
  refine ⟨millis, millis', number, hwide, hwide', ?_, ?_⟩
  · by_contra hsmall
    have hshort := congrArg List.length hnumber
    rw [digits_of_lt (by omega), List.length_drop, List.length_singleton] at hshort
    omega
  · rw [← String.toList_inj, toList_text, toList_text, hrow, ← hone, hrow', hq,
      List.append_assoc]

end BucketAccess.Sid
