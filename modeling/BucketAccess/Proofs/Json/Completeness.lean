/-
**What follows the grammar is read.**

A text of the grammar is read as a whole, whatever follows it, as long as what follows does not go
on a number.  So readers stop where the grammar stops.  The only texts of the grammar that are not
read are those that are nested too deep or hold a whole number with too many digits.

Main definitions:

* `BucketAccess.Json.Reader.Takes` — a reader takes a text as a whole.

Main results:

* `BucketAccess.Json.Numeral.take?_of_spells`, `BucketAccess.Json.pieces_of_body` — numbers and
  strings;
* `BucketAccess.Json.elements_of_takes` — the elements of a container;
* `BucketAccess.Json.takes_value` — **every form is read**;
* `BucketAccess.Json.document_eq_ok_iff` — **what is read are the documents**.
-/

import BucketAccess.Proofs.Json.RoundTrip
import BucketAccess.Proofs.Json.Soundness

set_option relaxedAutoImplicit false
set_option autoImplicit false

namespace BucketAccess.Json

open BucketAccess.Text (Str isDigit hexNumber?)

/-! ### Numbers -/

namespace Numeral

/-- Text behind a sign starts with no sign. -/
theorem takeSign_of_sign {sign after : List Char} {negative : Bool} (h : Sign sign negative)
    (hafter : after.head? ≠ some '-') : takeSign (sign ++ after) = (negative, after) := by
  cases h with
  | plus => exact takeSign_append false hafter
  | minus => exact takeSign_append true hafter

theorem isRow_of_whole {whole : List Char} (h : Whole whole) : IsRow whole := by
  cases h with
  | zero => exact ⟨List.cons_ne_nil _ _, List.forall_mem_singleton.2 rfl⟩
  | row h _ => exact h

theorem takeWhole?_of_whole {whole rest : List Char} (h : Whole whole)
    (hrest : ∀ c ∈ rest.head?, isDigit c = false) :
    takeWhole? (whole ++ rest) = some (whole, rest) := by
  obtain ⟨hne, hdigits⟩ := isRow_of_whole h
  refine takeWhole?_append hne hdigits ?_ hrest
  intro hhead
  cases h with
  | zero => rfl
  | row _ hzero => exact absurd hhead hzero

theorem takeFraction_of_fraction {point digits rest : List Char} (h : Fraction point digits)
    (hrest : ∀ c ∈ rest.head?, isDigit c = false ∧ c ≠ '.') :
    takeFraction (point ++ rest) = (digits, rest) := by
  cases h with
  | none => exact takeFraction_append (fun _ hc => absurd hc List.not_mem_nil) hrest
  | point h =>
      obtain ⟨c, more, rfl⟩ := List.exists_cons_of_ne_nil h.1
      exact takeFraction_append h.2 hrest

/-- An exponent is read when its sign is. -/
theorem takeExponent_of_sign {letter : Char} {s digits rest : List Char} {negative : Bool}
    (hletter : letter = 'e' ∨ letter = 'E')
    (hsign : takeExponentSign s = (negative, digits ++ rest)) (hrow : IsRow digits)
    (hrest : ∀ c ∈ rest.head?, isDigit c = false) :
    takeExponent (letter :: s) =
      (some (if negative then -(Decimal.value digits : Int) else Decimal.value digits), rest) := by
  simp only [takeExponent, hletter, if_true, hsign, takeWhile_digits hrow.2 hrest,
    dropWhile_digits hrow.2 hrest, List.isEmpty_eq_false_iff.2 hrow.1, Bool.false_eq_true, if_false]

theorem takeExponent_of_power {power rest : List Char} {exponent : Option Int}
    (h : Power power exponent) (hrest : EndsNumber rest) :
    takeExponent (power ++ rest) = (exponent, rest) := by
  have hdigit : ∀ c ∈ rest.head?, isDigit c = false := by
    intro c hc
    exact (hrest c hc).1
  cases h with
  | none =>
      cases rest with
      | nil => rfl
      | cons c more =>
          obtain ⟨-, -, hlower, hupper⟩ := hrest c rfl
          simp [takeExponent, hlower, hupper]
  | @unsigned letter digits hletter hrow =>
      have hsign : takeExponentSign (digits ++ rest) = (false, digits ++ rest) := by
        obtain ⟨c, more, rfl⟩ := List.exists_cons_of_ne_nil hrow.1
        have hc := hrow.2 c List.mem_cons_self
        have hplus : c ≠ '+' := ne_of_isDigit hc (by decide)
        have hminus : c ≠ '-' := ne_of_isDigit hc (by decide)
        simp [takeExponentSign, takeSign, hplus, hminus]
      exact takeExponent_of_sign hletter hsign hrow hdigit
  | @plus letter digits hletter hrow =>
      have hsign : takeExponentSign ('+' :: (digits ++ rest)) = (false, digits ++ rest) := rfl
      exact takeExponent_of_sign hletter hsign hrow hdigit
  | @minus letter digits hletter hrow =>
      have hsign : takeExponentSign ('-' :: (digits ++ rest)) = (true, digits ++ rest) := rfl
      exact takeExponent_of_sign hletter hsign hrow hdigit

theorem head_power {power rest : List Char} {exponent : Option Int} (h : Power power exponent)
    (hrest : EndsNumber rest) : ∀ c ∈ (power ++ rest).head?, isDigit c = false ∧ c ≠ '.' := by
  have hletter : ∀ letter, letter = 'e' ∨ letter = 'E' → isDigit letter = false ∧ letter ≠ '.' := by
    rintro letter (rfl | rfl) <;> decide
  intro c hc
  cases h with
  | none => exact ⟨(hrest c hc).1, (hrest c hc).2.1⟩
  | unsigned h _ =>
      obtain rfl := Option.some.inj hc
      exact hletter _ h
  | plus h _ =>
      obtain rfl := Option.some.inj hc
      exact hletter _ h
  | minus h _ =>
      obtain rfl := Option.some.inj hc
      exact hletter _ h

theorem head_fraction {point digits after : List Char} (h : Fraction point digits)
    (hafter : ∀ c ∈ after.head?, isDigit c = false ∧ c ≠ '.') :
    ∀ c ∈ (point ++ after).head?, isDigit c = false := by
  intro c hc
  cases h with
  | none => exact (hafter c hc).1
  | point _ =>
      obtain rfl := Option.some.inj hc
      decide

/-- **A number is read up to where it ends.** -/
theorem take?_of_spells {t rest : List Char} {n : Numeral} (h : n.Spells t)
    (hrest : EndsNumber rest) : take? (t ++ rest) = some (n, rest) := by
  obtain @⟨sign, whole, point, power, digits, negative, exponent, hsign, hwhole, hpoint, hpower⟩ :=
    h
  obtain ⟨hne, hdigits⟩ := isRow_of_whole hwhole
  have hminus : (whole ++ (point ++ (power ++ rest))).head? ≠ some '-' := by
    obtain ⟨c, more, rfl⟩ := List.exists_cons_of_ne_nil hne
    have hc : c ≠ '-' := ne_of_isDigit (hdigits c List.mem_cons_self) (by decide)
    simpa using hc
  have hafter := head_power hpower hrest
  rw [take?, List.append_assoc, List.append_assoc, List.append_assoc,
    takeSign_of_sign hsign hminus]
  simp only [takeWhole?_of_whole hwhole (head_fraction hpoint hafter), Option.map_some,
    takeFraction_of_fraction hpoint hafter, takeExponent_of_power hpower hrest]

end Numeral

/-! ### Strings -/

theorem lookup_of_escape {e c : Char} (h : Escape e c) :
    e ≠ 'u' ∧ shortEscapes.lookup e = some c := by
  cases h <;> decide

/-- **A string is read up to the quote that closes it.** -/
theorem pieces_of_body {t : List Char} {found : List Piece} (h : Body t found)
    (opening rest : List Char) : pieces opening (t ++ '"' :: rest) = .ok (found, rest) := by
  induction h with
  | empty => exact pieces_quote opening rest
  | @plain c s found hcontrol hquote hbackslash _ ih =>
      have hpiece : piece opening (c :: (s ++ '"' :: rest)) = .ok (.char c, s ++ '"' :: rest) := by
        rw [piece, if_neg (by omega)]
        · exact fun hslash => absurd hslash hbackslash
        · exact fun _ _ hslash => absurd hslash hbackslash
      rw [List.cons_append, pieces_of_piece (by simpa using hquote) hpiece, ih]
      rfl
  | @escape e c s found he _ ih =>
      obtain ⟨hletter, hlookup⟩ := lookup_of_escape he
      have hpiece : piece opening ('\\' :: e :: (s ++ '"' :: rest)) =
          .ok (.char c, s ++ '"' :: rest) := by
        simp [piece, hletter, hlookup]
      rw [List.cons_append, List.cons_append, pieces_of_piece (by simp) hpiece, ih]
      rfl
  | @unit digits s n found hlength hdigits _ ih =>
      have hescape : numericEscape (digits ++ (s ++ '"' :: rest)) =
          some (.unit n, s ++ '"' :: rest) := by
        obtain ⟨c, more, hmore⟩ : ∃ c more, s ++ '"' :: rest = c :: more :=
          List.exists_cons_of_ne_nil (by simp)
        rw [numericEscape, List.take_left' hlength, List.drop_left' hlength, hdigits, hmore]
      have hpiece : piece opening ('\\' :: 'u' :: (digits ++ (s ++ '"' :: rest))) =
          .ok (.unit n, s ++ '"' :: rest) := by
        simp [piece, hescape]
      rw [List.cons_append, List.cons_append, List.append_assoc,
        pieces_of_piece (by simp) hpiece, ih]
      rfl

theorem exists_body_of_quoted {t : List Char} {text : Str} (h : Quoted t text)
    (rest : List Char) : ∃ s, t ++ rest = '"' :: s ∧ stringBody.run s = .ok (text, rest) := by
  obtain @⟨s, found, hbody⟩ := h
  refine ⟨s ++ '"' :: rest, by simp, ?_⟩
  simp only [stringBody, pieces_of_body hbody, Reading.map_ok]

/-! ### Readers -/

section Takes

variable {α β : Type} {reader : Reader α} {spells : List Char → β → Prop} {meaning : β → α}

/-- **A reader takes a text as a whole**, whatever follows it, as long as it does not go on a
number. -/
structure Reader.Takes (reader : Reader α) (t : List Char) (a : α) : Prop where
  starts : StartsElement t
  run : ∀ {rest}, EndsNumber rest → reader.run (t ++ rest) = .ok (a, rest)

theorem IsBlanks.skipSpace_append {blanks s : List Char} (hblanks : IsBlanks blanks)
    (hs : ∀ c ∈ s.head?, isSpace c = false) : skipSpace (blanks ++ s) = s :=
  Json.skipSpace_append (isBlanks_iff.1 hblanks) hs

theorem IsBlanks.endsNumber_append {blanks rest : List Char} (hblanks : IsBlanks blanks)
    (hrest : EndsNumber rest) : EndsNumber (blanks ++ rest) :=
  Json.endsNumber_append (isBlanks_iff.1 hblanks) hrest

/-- Elements start with the first of them. -/
theorem Elements.exists_starts {s : List Char} {forms : List β}
    (h : Elements (fun t b => reader.Takes t (meaning b)) s forms) (rest : List Char) :
    ∃ t more, StartsElement t ∧ skipSpace (s ++ rest) = t ++ more := by
  cases h with
  | @last before t behind a hbefore ha hbehind =>
      refine ⟨t, behind ++ rest, ha.starts, ?_⟩
      rw [List.append_assoc, List.append_assoc, hbefore.skipSpace_append (ha.starts.head _)]
  | @more before t behind others a found hbefore ha hbehind hrest =>
      refine ⟨t, behind ++ ',' :: others ++ rest, ha.starts, ?_⟩
      rw [List.append_assoc, List.append_assoc, hbefore.skipSpace_append (ha.starts.head _)]

/-- **The elements of a container are read** when each of them is. -/
theorem elements_of_takes {close : Char} (hclose : close = ']' ∨ close = '}') {s : List Char}
    {forms : List β} (h : Elements (fun t b => reader.Takes t (meaning b)) s forms)
    (rest : List Char) :
    elements reader close (skipSpace (s ++ close :: rest)) = .ok (forms.map meaning, rest) := by
  have hspace : isSpace close = false := by
    rcases hclose with rfl | rfl <;> decide
  have hcomma : close ≠ ',' := by
    rcases hclose with rfl | rfl <;> decide
  have hends : EndsNumber (close :: rest) := by
    rcases hclose with rfl | rfl <;>
      exact endsNumber_cons (by decide) (by decide) (by decide) (by decide) _
  induction h with
  | last hbefore ha hbehind =>
      rw [List.append_assoc, List.append_assoc, hbefore.skipSpace_append (ha.starts.head _)]
      exact elements_of_close (ha.run (hbehind.endsNumber_append hends))
        (hbehind.skipSpace_append (by simpa using hspace))
  | more hbefore ha hbehind _ ih =>
      rw [List.append_assoc, List.append_assoc, List.append_assoc, List.cons_append,
        hbefore.skipSpace_append (ha.starts.head _),
        elements_of_comma hcomma (ha.run (hbehind.endsNumber_append (endsNumber_comma _)))
          (hbehind.skipSpace_append (by simp [isSpace])), ih]
      rfl

/-- A member is read when its value is. -/
theorem takes_member {reader : Reader Value} {meaning : β → Value} {t : List Char} {m : Str × β}
    (h : MemberOf (fun t b => reader.Takes t (meaning b)) t m) :
    (member reader).Takes t (m.1, meaning m.2) := by
  obtain @⟨name, before, behind, s, key, b, hname, hbefore, hbehind, hb⟩ := h
  refine ⟨?_, ?_⟩
  · obtain @⟨u, found, hbody⟩ := hname
    exact ⟨'"', _, rfl, by decide⟩
  · intro rest hrest
    obtain ⟨u, hu, hkey⟩ := exists_body_of_quoted hname (before ++ ':' :: (behind ++ (s ++ rest)))
    have hafter : skipSpace (before ++ ':' :: (behind ++ (s ++ rest))) =
        ':' :: (behind ++ (s ++ rest)) := hbefore.skipSpace_append (by simp [isSpace])
    have htext : name ++ (before ++ ':' :: (behind ++ s)) ++ rest = '"' :: u := by
      rw [← hu]
      simp only [List.append_assoc, List.cons_append]
    simp only [member, htext, hkey, hafter, hbehind.skipSpace_append (hb.starts.head rest),
      hb.run hrest, Reading.map_ok]

end Takes

/-! ### Values -/

section Values

variable {element : Option (Reader Value)} {s : List Char}

/-- A scalar is read by a reader of values, whatever it reads inside containers. -/
theorem takes_of_scalar {v : Value} (hstarts : StartsElement s)
    (h : ∀ {rest}, EndsNumber rest → scalar (s ++ rest) = .ok (v, rest)) :
    (valueWithin element).Takes s v := by
  refine ⟨hstarts, ?_⟩
  intro rest hrest
  have hback : scalar (s ++ rest) = readBack none v rest := h hrest
  exact run_valueWithin_of_scalar hback

theorem takes_number {n : Numeral} (h : n.Spells s) (hfew : n.wholeDigits ≤ maxDigits) :
    (valueWithin element).Takes s n.meaning := by
  refine takes_of_scalar ?_ ?_
  · have htake := Numeral.take?_of_spells h endsNumber_nil
    rw [List.append_nil] at htake
    exact startsElement_of_take? htake
  · intro rest hrest
    rw [scalar_of_take? (Numeral.take?_of_spells h hrest), Numeral.value_eq_ok_iff.2 ⟨hfew, rfl⟩]
    rfl

theorem takes_string {text : Str} (h : Quoted s text) :
    (valueWithin element).Takes s (.str text) := by
  refine takes_of_scalar ?_ ?_
  · obtain @⟨u, found, hbody⟩ := h
    exact ⟨'"', _, rfl, by decide⟩
  · intro rest _
    obtain ⟨u, hu, hbody⟩ := exists_body_of_quoted h rest
    rw [hu, scalar, hbody]
    rfl

theorem takes_emptyArray {reader : Reader Value} {blanks : List Char} (h : IsBlanks blanks) :
    (valueWithin (some reader)).Takes ('[' :: (blanks ++ [']'])) (.arr []) := by
  refine ⟨⟨'[', _, rfl, by decide⟩, ?_⟩
  intro rest _
  have hskip : skipSpace (blanks ++ ']' :: rest) = ']' :: rest :=
    h.skipSpace_append (by simp [isSpace])
  simp only [List.cons_append, List.append_assoc, List.nil_append, valueWithin, array, hskip]

theorem takes_array {reader : Reader Value} {items : List Form}
    (h : Elements (fun t f => reader.Takes t (Form.value f)) s items) :
    (valueWithin (some reader)).Takes ('[' :: (s ++ [']'])) (.arr (items.map Form.value)) := by
  refine ⟨⟨'[', _, rfl, by decide⟩, ?_⟩
  intro rest _
  have hloop := elements_of_takes (.inl rfl) h rest
  obtain ⟨t, more, hstart, hskip⟩ := h.exists_starts (']' :: rest)
  simp only [List.cons_append, List.append_assoc, List.nil_append, valueWithin]
  rw [array_of_starts hstart hskip, ← hskip, hloop, Reading.map_ok]

theorem takes_emptyObject {reader : Reader Value} {blanks : List Char} (h : IsBlanks blanks) :
    (valueWithin (some reader)).Takes ('{' :: (blanks ++ ['}'])) (.obj []) := by
  refine ⟨⟨'{', _, rfl, by decide⟩, ?_⟩
  intro rest _
  have hskip : skipSpace (blanks ++ '}' :: rest) = '}' :: rest :=
    h.skipSpace_append (by simp [isSpace])
  simp only [List.cons_append, List.append_assoc, List.nil_append, valueWithin, object, hskip]

theorem takes_object {reader : Reader Value} {members : List (Str × Form)}
    (h : Elements (MemberOf fun t f => reader.Takes t (Form.value f)) s members) :
    (valueWithin (some reader)).Takes ('{' :: (s ++ ['}']))
      (.obj (lastNamed (members.map fun m => (m.1, m.2.value)))) := by
  refine ⟨⟨'{', _, rfl, by decide⟩, ?_⟩
  intro rest _
  have hmembers : Elements (fun t m => (member reader).Takes t (m.1, Form.value m.2)) s members :=
    h.imp_of_mem fun t m _ hm => takes_member hm
  have hloop := elements_of_takes (.inr rfl) hmembers rest
  obtain ⟨t, more, hstart, hskip⟩ := hmembers.exists_starts ('}' :: rest)
  simp only [List.cons_append, List.append_assoc, List.nil_append, valueWithin]
  rw [object_of_starts hstart hskip, ← hskip, hloop, Reading.map_ok, Members.ofList_eq_lastNamed]

end Values

theorem exists_value_eq (n : Nat) : ∃ element, value n = valueWithin element := by
  cases n with
  | zero => exact ⟨none, rfl⟩
  | succ n => exact ⟨some (value n), rfl⟩

/-- **Every form is read** that is not nested too deep and has no whole number with too many
digits. -/
theorem takes_value {s : List Char} {f : Form} (h : f.Spells s) :
    ∀ n, f.Fits n → (value n).Takes s f.value := by
  -- the induction is on the form, so the bound has to be any that it fits in
  refine Form.Spells.induction (motive := fun s f => ∀ n, f.Fits n → (value n).Takes s f.value)
    ?wordNull ?wordTrue ?wordFalse ?number ?string ?emptyArray ?array ?emptyObject ?object h
  case wordNull =>
    intro n _
    obtain ⟨element, hvalue⟩ := exists_value_eq n
    rw [hvalue]
    exact takes_of_scalar ⟨'n', _, rfl, by decide⟩ fun _ => rfl
  case wordTrue =>
    intro n _
    obtain ⟨element, hvalue⟩ := exists_value_eq n
    rw [hvalue]
    exact takes_of_scalar ⟨'t', _, rfl, by decide⟩ fun _ => rfl
  case wordFalse =>
    intro n _
    obtain ⟨element, hvalue⟩ := exists_value_eq n
    rw [hvalue]
    exact takes_of_scalar ⟨'f', _, rfl, by decide⟩ fun _ => rfl
  case number =>
    intro t m ht n hfits
    obtain ⟨element, hvalue⟩ := exists_value_eq n
    rw [hvalue]
    exact takes_number ht hfits.2
  case string =>
    intro t text ht n _
    obtain ⟨element, hvalue⟩ := exists_value_eq n
    rw [hvalue]
    exact takes_string ht
  case emptyArray =>
    intro blanks hblanks n hfits
    cases n with
    | zero => exact absurd hfits (Form.not_fits_array _)
    | succ n => exact takes_emptyArray hblanks
  case array =>
    intro t items ht n hfits
    cases n with
    | zero => exact absurd hfits (Form.not_fits_array _)
    | succ n =>
        have hitems := Form.fits_array_iff.1 hfits
        rw [Form.value, valuesOfItems_eq]
        exact takes_array (ht.imp_of_mem fun u f hf hu => hu n (hitems f hf))
  case emptyObject =>
    intro blanks hblanks n hfits
    cases n with
    | zero => exact absurd hfits (Form.not_fits_object _)
    | succ n => exact takes_emptyObject hblanks
  case object =>
    intro t members ht n hfits
    cases n with
    | zero => exact absurd hfits (Form.not_fits_object _)
    | succ n =>
        have hmembers := Form.fits_object_iff.1 hfits
        rw [Form.value, valuesOfMembers_eq]
        exact takes_object (ht.imp_of_mem fun u m hm hu => hu.imp fun _ hf => hf n (hmembers m hm))

/-! ### Documents -/

/-- A document does not start with a byte order mark: it starts with a blank or with an element. -/
theorem head_ne_mark {before t behind more : List Char} (hbefore : IsBlanks before)
    (hstarts : StartsElement t) : before ++ (t ++ behind) ≠ '\uFEFF' :: more := by
  intro heq
  cases before with
  | nil =>
      obtain ⟨c, others, rfl, -, -, -, hc⟩ := hstarts
      exact hc (List.cons.inj heq).1
  | cons c others =>
      obtain rfl : c = '\uFEFF' := (List.cons.inj heq).1
      have hblank := hbefore _ List.mem_cons_self
      exact absurd hblank (by decide)

/-- **A text is read exactly if it is a document** that is not nested too deep and has no whole
number with too many digits. -/
theorem document_eq_ok_iff {limit : Nat} {s : List Char} {v : Value} :
    document limit s = .ok v ↔ ∃ f, Form.IsDocument s f ∧ f.Fits limit ∧ f.value = v := by
  refine ⟨exists_isDocument_of_document, ?_⟩
  rintro ⟨f, @⟨before, t, behind, _, hbefore, hspells, hbehind⟩, hfits, rfl⟩
  have htakes := takes_value hspells limit hfits
  have hskip : skipSpace (before ++ (t ++ behind)) = t ++ behind :=
    hbefore.skipSpace_append (htakes.starts.head behind)
  have hends : EndsNumber behind := by
    have hnil := hbehind.endsNumber_append endsNumber_nil
    rwa [List.append_nil] at hnil
  have hrest : skipSpace behind = [] := by
    have hhead : ∀ c ∈ ([] : List Char).head?, isSpace c = false := by simp
    have hnil := hbehind.skipSpace_append hhead
    rwa [List.append_nil] at hnil
  unfold document
  split
  · next more heq => exact absurd heq (head_ne_mark hbefore htakes.starts)
  · rw [hskip, htakes.run hends]
    simp only [hrest]

end BucketAccess.Json
