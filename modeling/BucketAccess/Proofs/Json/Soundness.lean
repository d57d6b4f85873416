/-
**What is read follows the grammar.**

A reader that takes something off the front of a text leaves the rest of the text, and what it has
taken is a text of the grammar.  This goes from the parts of a number to whole documents.  For the
elements of a container it is shown once, for any reader that follows any grammar.

Main definitions:

* `BucketAccess.Json.Reader.Follows` — what a reader takes is spelled as a grammar says.

Main results:

* `BucketAccess.Json.Numeral.exists_spells_of_take?`, `BucketAccess.Json.exists_body_of_pieces` —
  numbers and strings;
* `BucketAccess.Json.follows_elements` — the elements of a container;
* `BucketAccess.Json.exists_isDocument_of_document` — **a text that is read is a document**.
-/

import BucketAccess.Json.Document
import BucketAccess.Proofs.Json.Grammar

set_option relaxedAutoImplicit false
set_option autoImplicit false

namespace BucketAccess.Json

open BucketAccess.Text (Str isDigit)

/-! ### Blanks -/

theorem isSpace_iff {c : Char} :
    isSpace c = true ↔ c = ' ' ∨ c = '\t' ∨ c = '\n' ∨ c = '\r' := by
  simp [isSpace, or_assoc]

theorem isBlanks_iff {s : List Char} : IsBlanks s ↔ ∀ c ∈ s, isSpace c = true :=
  forall_congr' fun _ => imp_congr_right fun _ => isSpace_iff.symm

/-- What is skipped are blanks. -/
theorem exists_blanks_append_skipSpace (s : List Char) :
    ∃ blanks, IsBlanks blanks ∧ s = blanks ++ skipSpace s := by
  refine ⟨s.takeWhile isSpace, ?_, List.takeWhile_append_dropWhile.symm⟩
  exact isBlanks_iff.2 (List.all_eq_true.1 List.all_takeWhile)

theorem isBlanks_nil : IsBlanks [] := by
  simp [IsBlanks]

theorem IsBlanks.append {s t : List Char} (hs : IsBlanks s) (ht : IsBlanks t) :
    IsBlanks (s ++ t) := by
  intro c hc
  rcases List.mem_append.1 hc with hc | hc
  · exact hs c hc
  · exact ht c hc

/-! ### Numbers -/

namespace Numeral

theorem isRow_takeWhile {s : List Char} (h : (s.takeWhile isDigit).isEmpty = false) :
    IsRow (s.takeWhile isDigit) :=
  ⟨List.isEmpty_eq_false_iff.1 h, List.all_eq_true.1 List.all_takeWhile⟩

theorem exists_sign_of_takeSign {s rest : List Char} {negative : Bool}
    (h : takeSign s = (negative, rest)) : ∃ sign, Sign sign negative ∧ s = sign ++ rest := by
  unfold takeSign at h
  split at h
  · obtain ⟨rfl, rfl⟩ := Prod.mk.inj h
    exact ⟨_, .minus, rfl⟩
  · obtain ⟨rfl, rfl⟩ := Prod.mk.inj h
    exact ⟨_, .plus, rfl⟩

theorem whole_of_takeWhole? {s whole rest : List Char} (h : takeWhole? s = some (whole, rest)) :
    Whole whole ∧ s = whole ++ rest := by
  cases s with
  | nil => simp [takeWhole?] at h
  | cons c more =>
      simp only [takeWhole?] at h
      split at h
      · next hzero =>
          obtain ⟨rfl, rfl⟩ := Prod.mk.inj (Option.some.inj h)
          exact ⟨.zero, by rw [hzero]; rfl⟩
      · next hzero =>
          split at h
          · next hc =>
              obtain ⟨rfl, rfl⟩ := Prod.mk.inj (Option.some.inj h)
              refine ⟨.row ⟨by simp, ?_⟩ (by simpa using hzero), ?_⟩
              · exact List.forall_mem_cons.2 ⟨hc, List.all_eq_true.1 List.all_takeWhile⟩
              · rw [List.cons_append, List.takeWhile_append_dropWhile]
          · simp at h

theorem exists_fraction_of_takeFraction {s digits rest : List Char}
    (h : takeFraction s = (digits, rest)) : ∃ point, Fraction point digits ∧ s = point ++ rest := by
  unfold takeFraction at h
  split at h
  · split at h
    · obtain ⟨rfl, rfl⟩ := Prod.mk.inj h
      exact ⟨_, .none, rfl⟩
    · next hdigits =>
        obtain ⟨rfl, rfl⟩ := Prod.mk.inj h
        refine ⟨_, .point (isRow_takeWhile (by simpa using hdigits)), ?_⟩
        rw [List.cons_append, List.takeWhile_append_dropWhile]
  · obtain ⟨rfl, rfl⟩ := Prod.mk.inj h
    exact ⟨_, .none, rfl⟩

/-- A sign behind the letter of an exponent, or none, with the digits behind it. -/
theorem power_of_takeExponentSign {letter : Char} {s more digits : List Char} {negative : Bool}
    (hletter : letter = 'e' ∨ letter = 'E') (h : takeExponentSign s = (negative, digits ++ more))
    (hrow : IsRow digits) : ∃ power, Power power
      (some (if negative then -(Decimal.value digits : Int) else Decimal.value digits)) ∧
        letter :: s = power ++ more := by
  unfold takeExponentSign takeSign at h
  split at h
  · obtain ⟨rfl, rfl⟩ := Prod.mk.inj h
    exact ⟨_, .plus hletter hrow, rfl⟩
  · split at h
    · obtain ⟨rfl, rfl⟩ := Prod.mk.inj h
      exact ⟨_, .minus hletter hrow, rfl⟩
    · obtain ⟨rfl, rfl⟩ := Prod.mk.inj h
      exact ⟨_, .unsigned hletter hrow, rfl⟩

theorem exists_power_of_takeExponent {s rest : List Char} {exponent : Option Int}
    (h : takeExponent s = (exponent, rest)) :
    ∃ power, Power power exponent ∧ s = power ++ rest := by
  cases s with
  | nil =>
      obtain ⟨rfl, rfl⟩ := Prod.mk.inj h
      exact ⟨_, .none, rfl⟩
  | cons letter more =>
      simp only [takeExponent] at h
      split at h
      · next hletter =>
          split at h
          · obtain ⟨rfl, rfl⟩ := Prod.mk.inj h
            exact ⟨_, .none, rfl⟩
          · next hdigits =>
              obtain ⟨rfl, rfl⟩ := Prod.mk.inj h
              refine power_of_takeExponentSign hletter ?_ (isRow_takeWhile (by simpa using hdigits))
              rw [List.takeWhile_append_dropWhile]
      · obtain ⟨rfl, rfl⟩ := Prod.mk.inj h
        exact ⟨_, .none, rfl⟩

/-- **A number that is read is spelled part by part.** -/
theorem exists_spells_of_take? {s rest : List Char} {n : Numeral} (h : take? s = some (n, rest)) :
    ∃ t, n.Spells t ∧ s = t ++ rest := by
  rcases hs : takeSign s with ⟨negative, afterSign⟩
  simp only [take?, hs, Option.map_eq_some_iff, Prod.exists] at h
  obtain ⟨whole, afterWhole, hw, hn⟩ := h
  rcases hf : takeFraction afterWhole with ⟨digits, afterFraction⟩
  rcases he : takeExponent afterFraction with ⟨exponent, afterPower⟩
  simp only [hf, he] at hn
  obtain ⟨rfl, rfl⟩ := Prod.mk.inj hn
  obtain ⟨sign, hsign, rfl⟩ := exists_sign_of_takeSign hs
  obtain ⟨hwhole, rfl⟩ := whole_of_takeWhole? hw
  obtain ⟨point, hpoint, rfl⟩ := exists_fraction_of_takeFraction hf
  obtain ⟨power, hpower, rfl⟩ := exists_power_of_takeExponent he
  refine ⟨_, .mk hsign hwhole hpoint hpower, ?_⟩
  simp only [List.append_assoc]

/-- A number has a value when it has no more digits than are accepted. -/
theorem value_eq_ok_iff {n : Numeral} {v : Value} :
    n.value = .ok v ↔ n.wholeDigits ≤ maxDigits ∧ n.meaning = v := by
  unfold value wholeDigits meaning isWhole
  split
  · split
    · next hmany => simp [Nat.not_le_of_lt hmany]
    · next hfew => simp [Nat.le_of_not_lt hfew]
  · simp

end Numeral

/-! ### Strings -/

theorem escape_of_lookup {e c : Char} (h : shortEscapes.lookup e = some c) : Escape e c := by
  obtain ⟨before, behind, heq, -⟩ := List.lookup_eq_some_iff.1 h
  have hmem : (e, c) ∈ shortEscapes := by simp [heq]
  simp only [shortEscapes, List.mem_cons, Prod.mk.injEq, List.not_mem_nil, or_false] at hmem
  rcases hmem with ⟨rfl, rfl⟩ | ⟨rfl, rfl⟩ | ⟨rfl, rfl⟩ | ⟨rfl, rfl⟩ | ⟨rfl, rfl⟩ | ⟨rfl, rfl⟩ |
    ⟨rfl, rfl⟩ | ⟨rfl, rfl⟩
  · exact .quote
  · exact .backslash
  · exact .slash
  · exact .backspace
  · exact .formFeed
  · exact .lineFeed
  · exact .carriageReturn
  · exact .tab

theorem exists_digits_of_numericEscape {s rest : List Char} {p : Piece}
    (h : numericEscape s = some (p, rest)) :
    ∃ digits n, digits.length = 4 ∧ BucketAccess.Text.hexNumber? digits = some n ∧ p = .unit n ∧
      s = digits ++ rest := by
  unfold numericEscape at h
  split at h
  · next n next more hnumber hdrop =>
      obtain ⟨rfl, rfl⟩ := Prod.mk.inj (Option.some.inj h)
      refine ⟨s.take 4, n, ?_, hnumber, rfl, ?_⟩
      · have hlength := congrArg List.length hdrop
        simp only [List.length_drop, List.length_cons] at hlength
        rw [List.length_take]
        omega
      · rw [← hdrop, List.take_append_drop]
  · simp at h

/-- An element that is read goes in front of any other elements. -/
theorem body_of_piece {opening s rest : List Char} {p : Piece} (hquote : s.head? ≠ some '"')
    (h : piece opening s = .ok (p, rest)) :
    ∃ t, s = t ++ rest ∧ ∀ u found, Body u found → Body (t ++ u) (p :: found) := by
  unfold piece at h
  split at h
  · simp [mistake] at h
  · simp [mistake] at h
  · next e more =>
      split at h
      · next hletter =>
          split at h
          · next found hescape =>
              obtain rfl := Except.ok.inj h
              obtain ⟨digits, n, hlength, hdigits, rfl, rfl⟩ :=
                exists_digits_of_numericEscape hescape
              refine ⟨'\\' :: 'u' :: digits, by rw [hletter]; rfl, ?_⟩
              intro u found hu
              exact .unit hlength hdigits hu
          · simp [mistake] at h
      · split at h
        · next c hlookup =>
            obtain ⟨rfl, rfl⟩ := Prod.mk.inj (Except.ok.inj h)
            refine ⟨['\\', e], rfl, ?_⟩
            intro u found hu
            exact .escape (escape_of_lookup hlookup) hu
        · simp [mistake] at h
  · next c more hsingle hescape =>
      split at h
      · simp [mistake] at h
      · next hcontrol =>
          obtain ⟨rfl, rfl⟩ := Prod.mk.inj (Except.ok.inj h)
          refine ⟨[c], rfl, ?_⟩
          intro u found hu
          refine .plain (by omega) (by simpa using hquote) ?_ hu
          rintro rfl
          cases more with
          | nil => exact hsingle rfl rfl
          | cons e others => exact hescape e others rfl rfl

/-- **A string that is read is spelled element by element.** -/
theorem exists_body_of_pieces {opening s rest : List Char} {found : List Piece}
    (h : pieces opening s = .ok (found, rest)) : ∃ t, Body t found ∧ s = t ++ '"' :: rest := by
  fun_induction pieces opening s generalizing found rest with
  | case1 more =>
      obtain ⟨rfl, rfl⟩ := Prod.mk.inj (Except.ok.inj h)
      exact ⟨[], .empty, rfl⟩
  | case2 => simp at h
  | case3 s hquote p more hpiece ih =>
      obtain ⟨behind, hbehind, rfl⟩ := Reading.map_eq_ok_iff.1 h
      obtain ⟨u, hu, rfl⟩ := ih hbehind
      have hhead : s.head? ≠ some '"' := by
        intro hhead
        obtain ⟨tail, rfl⟩ := List.head?_eq_some_iff.1 hhead
        exact hquote tail rfl
      obtain ⟨t, rfl, ht⟩ := body_of_piece hhead hpiece
      refine ⟨t ++ u, ht u behind hu, ?_⟩
      rw [List.append_assoc]

theorem exists_quoted_of_stringBody {s rest : List Char} {text : Str}
    (h : stringBody.run s = .ok (text, rest)) : ∃ t, Quoted t text ∧ '"' :: s = t ++ rest := by
  obtain ⟨found, hfound, rfl⟩ := Reading.map_eq_ok_iff.1 h
  obtain ⟨t, ht, rfl⟩ := exists_body_of_pieces hfound
  refine ⟨_, .mk ht, ?_⟩
  simp only [List.cons_append, List.append_assoc, List.nil_append]

/-! ### Readers -/

section Follows

variable {α β : Type}

/-- **What a reader takes is spelled as a grammar says**: it is the text of something that is within
some limits and stands for what the reader gives. -/
def Reader.Follows (reader : Reader α) (spells : List Char → β → Prop) (limits : β → Prop)
    (meaning : β → α) : Prop :=
  ∀ {s rest a}, reader.run s = .ok (a, rest) →
    ∃ t b, s = t ++ rest ∧ spells t b ∧ limits b ∧ meaning b = a

variable {reader : Reader α} {spells : List Char → β → Prop} {limits : β → Prop} {meaning : β → α}

theorem Elements.blanks_append {s blanks : List Char} {found : List β}
    (hblanks : IsBlanks blanks) (h : Elements spells s found) :
    Elements spells (blanks ++ s) found := by
  cases h with
  | last hbefore ha hbehind =>
      rw [← List.append_assoc]
      exact .last (hblanks.append hbefore) ha hbehind
  | more hbefore ha hbehind hrest =>
      rw [← List.append_assoc]
      exact .more (hblanks.append hbefore) ha hbehind hrest

/-- **The elements of a container** follow a grammar when each of them does. -/
theorem follows_elements (hreader : reader.Follows spells limits meaning) {close : Char}
    {s rest : List Char} {found : List α} (h : elements reader close s = .ok (found, rest)) :
    ∃ t forms, s = t ++ close :: rest ∧ Elements spells t forms ∧ (∀ b ∈ forms, limits b) ∧
      forms.map meaning = found := by
  fun_induction elements reader close s generalizing found rest with
  | case1 => simp at h
  | case2 => simp [mistake] at h
  | case3 s a after hrun more hafter =>
      obtain ⟨rfl, rfl⟩ := Prod.mk.inj (Except.ok.inj h)
      obtain ⟨t, b, rfl, ht, hb, rfl⟩ := hreader hrun
      obtain ⟨blanks, hblanks, hskip⟩ := exists_blanks_append_skipSpace after
      refine ⟨_, [b], ?_, .last isBlanks_nil ht hblanks, by simpa using hb, rfl⟩
      rw [hskip, hafter]
      simp only [List.nil_append, List.append_assoc]
  | case4 s a after hrun more hafter _ ih =>
      obtain ⟨behind, hbehind, rfl⟩ := Reading.map_eq_ok_iff.1 h
      obtain ⟨u, forms, hu, hforms, hlimits, rfl⟩ := ih hbehind
      obtain ⟨t, b, rfl, ht, hb, rfl⟩ := hreader hrun
      obtain ⟨blanks, hblanks, hskip⟩ := exists_blanks_append_skipSpace after
      obtain ⟨blanks', hblanks', hskip'⟩ := exists_blanks_append_skipSpace more
      refine ⟨_, b :: forms, ?_, .more isBlanks_nil ht hblanks (hforms.blanks_append hblanks'),
        List.forall_mem_cons.2 ⟨hb, hlimits⟩, rfl⟩
      rw [hskip, hafter, hskip', hu]
      simp only [List.nil_append, List.append_assoc, List.cons_append]
  | case5 => simp [mistake] at h

/-- A member follows a grammar when its value does. -/
theorem follows_member {reader : Reader Value} {meaning : β → Value}
    (hreader : reader.Follows spells limits meaning) :
    (member reader).Follows (MemberOf spells) (fun m => limits m.2)
      (fun m => (m.1, meaning m.2)) := by
  intro s rest m h
  simp only [member] at h
  split at h
  · split at h
    · simp at h
    · next named key after hname =>
        split at h
        · next more hafter =>
            obtain ⟨v, hrun, rfl⟩ := Reading.map_eq_ok_iff.1 h
            obtain ⟨name, hquoted, hnamed⟩ := exists_quoted_of_stringBody hname
            obtain ⟨t, b, ht, hspells, hlimits, rfl⟩ := hreader hrun
            obtain ⟨before, hbefore, hskip⟩ := exists_blanks_append_skipSpace after
            obtain ⟨behind, hbehind, hskip'⟩ := exists_blanks_append_skipSpace more
            refine ⟨_, (key, b), ?_, ⟨hquoted, hbefore, hbehind, hspells⟩, hlimits, rfl⟩
            rw [hnamed, hskip, hafter, hskip', ht]
            simp only [List.append_assoc, List.cons_append]
        · simp [mistake] at h
  · simp [mistake] at h

end Follows

/-! ### Values -/

theorem exists_spells_of_word? {s rest : List Char} {v : Value} (h : word? s = some (v, rest)) :
    ∃ t f, s = t ++ rest ∧ Form.Spells t f ∧ f.Fits 0 ∧ f.value = v := by
  obtain ⟨⟨word, w⟩, hmem, hfound⟩ := List.exists_of_findSome?_eq_some h
  obtain ⟨more, hmore, heq⟩ := Option.map_eq_some_iff.1 hfound
  obtain ⟨rfl, rfl⟩ := Prod.mk.inj heq
  have hs := BucketAccess.Text.dropLead?_eq_some_iff.1 hmore
  simp only [words, List.mem_cons, Prod.mk.injEq, List.not_mem_nil, or_false] at hmem
  rcases hmem with ⟨rfl, rfl⟩ | ⟨rfl, rfl⟩ | ⟨rfl, rfl⟩
  · exact ⟨_, .null, hs, .wordNull, ⟨Nat.zero_le _, Nat.zero_le _⟩, rfl⟩
  · exact ⟨_, .bool true, hs, .wordTrue, ⟨Nat.zero_le _, Nat.zero_le _⟩, rfl⟩
  · exact ⟨_, .bool false, hs, .wordFalse, ⟨Nat.zero_le _, Nat.zero_le _⟩, rfl⟩

/-- A value without values in it follows the grammar. -/
theorem exists_spells_of_scalar {s rest : List Char} {v : Value} (h : scalar s = .ok (v, rest)) :
    ∃ t f, s = t ++ rest ∧ Form.Spells t f ∧ f.Fits 0 ∧ f.value = v := by
  unfold scalar at h
  split at h
  · obtain ⟨text, hbody, rfl⟩ := Reading.map_eq_ok_iff.1 h
    obtain ⟨t, ht, hs⟩ := exists_quoted_of_stringBody hbody
    exact ⟨t, .string text, hs, .string ht, ⟨Nat.zero_le _, Nat.zero_le _⟩, rfl⟩
  · unfold atom at h
    split at h
    · next found hword =>
        obtain rfl := Except.ok.inj h
        exact exists_spells_of_word? hword
    · split at h
      · simp at h
      · split at h
        · simp [mistake] at h
        · next n after htake =>
            cases hvalue : n.value with
            | error fault => simp [hvalue, Except.map] at h
            | ok w =>
                obtain ⟨rfl, rfl⟩ : w = v ∧ after = rest := by simpa [hvalue, Except.map] using h
                obtain ⟨hfew, hmeaning⟩ := Numeral.value_eq_ok_iff.1 hvalue
                obtain ⟨t, ht, hs⟩ := Numeral.exists_spells_of_take? htake
                exact ⟨t, .number n, hs, .number ht, ⟨Nat.zero_le _, hfew⟩, hmeaning⟩

section Containers

variable {element : Reader Value} {n : Nat} {s rest : List Char} {v : Value}

theorem exists_spells_of_array (helement : element.Follows Form.Spells (Form.Fits n) Form.value)
    (h : array element s = .ok (v, rest)) :
    ∃ t f, '[' :: s = t ++ rest ∧ Form.Spells t f ∧ f.Fits (n + 1) ∧ f.value = v := by
  obtain ⟨blanks, hblanks, hskip⟩ := exists_blanks_append_skipSpace s
  unfold array at h
  split at h
  · next more hclose =>
      obtain ⟨rfl, rfl⟩ := Prod.mk.inj (Except.ok.inj h)
      refine ⟨_, .array [], ?_, .emptyArray hblanks, Form.fits_array_iff.2 (by simp), rfl⟩
      rw [hskip, hclose]
      simp
  · obtain ⟨found, hfound, rfl⟩ := Reading.map_eq_ok_iff.1 h
    obtain ⟨t, items, ht, hitems, hfits, rfl⟩ := follows_elements helement hfound
    refine ⟨_, .array items, ?_, .array (hitems.blanks_append hblanks), Form.fits_array_iff.2 hfits,
      ?_⟩
    · rw [hskip, ht]
      simp
    · rw [Form.value, valuesOfItems_eq]

theorem exists_spells_of_object (helement : element.Follows Form.Spells (Form.Fits n) Form.value)
    (h : object element s = .ok (v, rest)) :
    ∃ t f, '{' :: s = t ++ rest ∧ Form.Spells t f ∧ f.Fits (n + 1) ∧ f.value = v := by
  obtain ⟨blanks, hblanks, hskip⟩ := exists_blanks_append_skipSpace s
  unfold object at h
  split at h
  · next more hclose =>
      obtain ⟨rfl, rfl⟩ := Prod.mk.inj (Except.ok.inj h)
      refine ⟨_, .object [], ?_, .emptyObject hblanks, Form.fits_object_iff.2 (by simp), rfl⟩
      rw [hskip, hclose]
      simp
  · obtain ⟨found, hfound, rfl⟩ := Reading.map_eq_ok_iff.1 h
    obtain ⟨t, members, ht, hmembers, hfits, rfl⟩ :=
      follows_elements (follows_member helement) hfound
    refine ⟨_, .object members, ?_, .object (hmembers.blanks_append hblanks),
      Form.fits_object_iff.2 hfits, ?_⟩
    · rw [hskip, ht]
      simp
    · rw [Form.value, valuesOfMembers_eq, Members.ofList_eq_lastNamed]

end Containers

theorem Form.Fits.mono {n m : Nat} {f : Form} (h : f.Fits n) (hle : n ≤ m) : f.Fits m :=
  ⟨Nat.le_trans h.1 hle, h.2⟩

/-- **A value that is read follows the grammar.** -/
theorem follows_value (n : Nat) : (value n).Follows Form.Spells (Form.Fits n) Form.value := by
  induction n with
  | zero =>
      intro s rest v h
      simp only [value, valueWithin] at h
      split at h
      · simp at h
      · simp at h
      · next hnone => simp at hnone
      · next hnone => simp at hnone
      · exact exists_spells_of_scalar h
  | succ n ih =>
      intro s rest v h
      simp only [value, valueWithin] at h
      split at h
      · next hsome => simp at hsome
      · next hsome => simp at hsome
      · next hsome =>
          obtain rfl := Option.some.inj hsome
          exact exists_spells_of_array ih h
      · next hsome =>
          obtain rfl := Option.some.inj hsome
          exact exists_spells_of_object ih h
      · obtain ⟨t, f, hs, hspells, hfits, hvalue⟩ := exists_spells_of_scalar h
        exact ⟨t, f, hs, hspells, hfits.mono (Nat.zero_le _), hvalue⟩

/-! ### Documents -/

/-- **A text that is read is a document.** -/
theorem exists_isDocument_of_document {limit : Nat} {s : List Char} {v : Value}
    (h : document limit s = .ok v) : ∃ f, Form.IsDocument s f ∧ f.Fits limit ∧ f.value = v := by
  unfold document at h
  split at h
  · simp at h
  · split at h
    · simp at h
    · next v' rest hrun =>
        split at h
        · next hempty =>
            obtain rfl := Except.ok.inj h
            obtain ⟨before, hbefore, hs⟩ := exists_blanks_append_skipSpace s
            obtain ⟨behind, hbehind, hrest⟩ := exists_blanks_append_skipSpace rest
            obtain ⟨t, f, ht, hspells, hfits, hvalue⟩ := follows_value _ hrun
            refine ⟨f, ?_, hfits, hvalue⟩
            rw [hs, ht, hrest, hempty, List.append_nil]
            exact ⟨hbefore, hspells, hbehind⟩
        · simp at h

/-- A text has a document exactly if its characters have. -/
theorem read_eq_ok_iff {limit : Nat} {text : String} {v : Value} :
    read limit text = .ok v ↔ document limit text.toList = .ok v := by
  unfold read
  cases document limit text.toList with
  | error fault => exact ⟨nofun, nofun⟩
  | ok w => exact ⟨fun h => congrArg Except.ok (Except.ok.inj h),
      fun h => congrArg Except.ok (Except.ok.inj h)⟩

end BucketAccess.Json
