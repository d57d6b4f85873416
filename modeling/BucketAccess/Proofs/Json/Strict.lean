/-
**Only documents are read.**

Reading is strict: no text is read that is not a document, and every document is, within the limits
on nesting and on the digits of whole numbers.  In particular the words for numbers that are none
are not read, at any depth.  To tell where they may stand after all, the strings of a text are
emptied: a quote starts a string, and the next quote that no backslash is in front of ends it.

Main definitions:

* `BucketAccess.Json.outside`, `BucketAccess.Json.inside` — a text with its strings emptied;
* `BucketAccess.Json.IsPlain` — a text without the letters of these words outside strings.

Main results:

* `BucketAccess.Json.Form.Spells.isPlain` — what the grammar spells is plain;
* `BucketAccess.Json.Quoted.between` — whatever the words, they may stand in any string;
* `BucketAccess.Json.read_eq_ok_iff_isDocument` — **what is read are the documents**, with what
  they stand for.
-/

import BucketAccess.Proofs.Json.Completeness

set_option relaxedAutoImplicit false
set_option autoImplicit false

namespace BucketAccess.Json

open BucketAccess.Text (Str isDigit hexNumber? hexNumberFrom? hexValue?)

/-! ### Emptied strings -/

mutual

/-- A text with its strings emptied. -/
def outside : List Char → List Char
  | [] => []
  | '"' :: rest => '"' :: inside rest
  | c :: rest => c :: outside rest

/-- A text with its strings emptied, from inside one of them. -/
def inside : List Char → List Char
  | [] => []
  | '"' :: rest => '"' :: outside rest
  | '\\' :: _ :: rest => inside rest
  | _ :: rest => inside rest

end

theorem outside_cons {c : Char} (h : c ≠ '"') (rest : List Char) :
    outside (c :: rest) = c :: outside rest := by
  rw [outside]
  exact fun hquote => absurd hquote h

theorem inside_cons {c : Char} (hquote : c ≠ '"') (hbackslash : c ≠ '\\') (rest : List Char) :
    inside (c :: rest) = inside rest := by
  rw [inside]
  · exact fun h => absurd h hquote
  · exact fun _ _ h => absurd h hbackslash

theorem inside_append {s : List Char} (h : ∀ c ∈ s, c ≠ '"' ∧ c ≠ '\\') (rest : List Char) :
    inside (s ++ rest) = inside rest := by
  induction s with
  | nil => rfl
  | cons c more ih =>
      obtain ⟨⟨hquote, hbackslash⟩, hmore⟩ := List.forall_mem_cons.1 h
      rw [List.cons_append, inside_cons hquote hbackslash, ih hmore]

theorem hexValue?_of_hexNumberFrom? {digits : List Char} {value n : Nat}
    (h : hexNumberFrom? value digits = some n) : ∀ c ∈ digits, hexValue? c ≠ none := by
  induction digits generalizing value with
  | nil => exact fun _ hc => absurd hc List.not_mem_nil
  | cons c more ih =>
      obtain ⟨digit, hdigit, hmore⟩ := Option.bind_eq_some_iff.1 h
      exact List.forall_mem_cons.2 ⟨by simp [hdigit], ih hmore⟩

/-- What stands between the quotes of a string is left out. -/
theorem inside_body {s : List Char} {found : List Piece} (h : Body s found) (rest : List Char) :
    inside (s ++ '"' :: rest) = '"' :: outside rest := by
  induction h with
  | empty => rfl
  | plain _ hquote hbackslash _ ih => rw [List.cons_append, inside_cons hquote hbackslash, ih]
  | escape _ _ ih => rw [List.cons_append, List.cons_append, inside, ih]
  | unit _ hdigits _ ih =>
      have hhex := hexValue?_of_hexNumberFrom? hdigits
      rw [List.cons_append, List.cons_append, inside, List.append_assoc, inside_append, ih]
      intro c hc
      constructor <;> rintro rfl <;> exact hhex _ hc (by decide)

-- a quote with a backslash in front of it does not end a string
example : outside ['"', '\\', '"', 'N', '"', ','] = ['"', '"', ','] := rfl

/-! ### Plain texts -/

/-- A text is plain when it ends outside strings and none of the letters of the excluded words
stands outside them. -/
def IsPlain (s : List Char) : Prop :=
  ∀ rest, ∃ shown, outside (s ++ rest) = shown ++ outside rest ∧ 'N' ∉ shown ∧ 'I' ∉ shown

theorem IsPlain.append {s t : List Char} (hs : IsPlain s) (ht : IsPlain t) : IsPlain (s ++ t) := by
  intro rest
  obtain ⟨first, hfirst, hfirstN, hfirstI⟩ := hs (t ++ rest)
  obtain ⟨second, hsecond, hsecondN, hsecondI⟩ := ht rest
  refine ⟨first ++ second, ?_, by simp [hfirstN, hsecondN], by simp [hfirstI, hsecondI]⟩
  rw [List.append_assoc, hfirst, hsecond, List.append_assoc]

/-- The characters that do not matter outside strings. -/
def isPlainChar (c : Char) : Bool :=
  c != '"' && c != 'N' && c != 'I'

theorem isPlain_of_all {s : List Char} (h : s.all isPlainChar = true) : IsPlain s := by
  simp only [List.all_eq_true, isPlainChar, Bool.and_eq_true, bne_iff_ne] at h
  intro rest
  refine ⟨s, ?_, fun hmem => (h _ hmem).1.2 rfl, fun hmem => (h _ hmem).2 rfl⟩
  induction s with
  | nil => rfl
  | cons c more ih =>
      obtain ⟨⟨⟨hquote, -⟩, -⟩, hmore⟩ := List.forall_mem_cons.1 h
      rw [List.cons_append, outside_cons hquote, ih hmore, List.cons_append]

theorem isPlain_singleton {c : Char} (h : isPlainChar c = true) : IsPlain [c] :=
  isPlain_of_all (by simpa using h)

theorem IsPlain.cons {c : Char} {s : List Char} (hc : isPlainChar c = true) (hs : IsPlain s) :
    IsPlain (c :: s) :=
  (isPlain_singleton hc).append hs

theorem IsBlanks.isPlain {blanks : List Char} (h : IsBlanks blanks) : IsPlain blanks := by
  refine isPlain_of_all (List.all_eq_true.2 ?_)
  intro c hc
  rcases h c hc with rfl | rfl | rfl | rfl <;> decide

theorem Quoted.isPlain {s : List Char} {text : Str} (h : Quoted s text) : IsPlain s := by
  obtain @⟨body, found, hbody⟩ := h
  intro rest
  refine ⟨['"', '"'], ?_, by decide, by decide⟩
  rw [List.cons_append, List.append_assoc, outside]
  exact congrArg ('"' :: ·) (inside_body hbody rest)

/-! ### Numbers -/

namespace Numeral

theorem isPlain_of_isRow {digits : List Char} (h : IsRow digits) : IsPlain digits := by
  refine isPlain_of_all (List.all_eq_true.2 ?_)
  intro c hc
  have hdigit := h.2 c hc
  have hne : ∀ d, isDigit d = false → c ≠ d := fun _ hd => ne_of_isDigit hdigit hd
  simp [isPlainChar, hne '"' (by decide), hne 'N' (by decide), hne 'I' (by decide)]

theorem isPlain_of_power {power : List Char} {exponent : Option Int} (h : Power power exponent) :
    IsPlain power := by
  have hletter : ∀ letter, letter = 'e' ∨ letter = 'E' → isPlainChar letter = true := by
    rintro letter (rfl | rfl) <;> decide
  cases h with
  | none => exact isPlain_of_all rfl
  | unsigned h hrow => exact .cons (hletter _ h) (isPlain_of_isRow hrow)
  | plus h hrow => exact .cons (hletter _ h) (.cons (by decide) (isPlain_of_isRow hrow))
  | minus h hrow => exact .cons (hletter _ h) (.cons (by decide) (isPlain_of_isRow hrow))

theorem Spells.isPlain {s : List Char} {n : Numeral} (h : n.Spells s) : IsPlain s := by
  obtain ⟨hsign, hwhole, hpoint, hpower⟩ := h
  refine .append ?_ (.append (isPlain_of_isRow (isRow_of_whole hwhole))
    (.append ?_ (isPlain_of_power hpower)))
  · cases hsign <;> exact isPlain_of_all (by decide)
  · cases hpoint with
    | none => exact isPlain_of_all rfl
    | point hrow => exact .cons (by decide) (isPlain_of_isRow hrow)

end Numeral

/-! ### Forms -/

theorem Elements.isPlain {α : Type} {s : List Char} {found : List α}
    (h : Elements (fun t _ => IsPlain t) s found) : IsPlain s := by
  induction h with
  | last hbefore hs hbehind => exact hbefore.isPlain.append (hs.append hbehind.isPlain)
  | more hbefore hs hbehind _ ih =>
      exact hbefore.isPlain.append (hs.append (hbehind.isPlain.append (.cons (by decide) ih)))

theorem MemberOf.isPlain {α : Type} {s : List Char} {m : Str × α}
    (h : MemberOf (fun t _ => IsPlain t) s m) : IsPlain s := by
  obtain ⟨hname, hbefore, hbehind, hs⟩ := h
  exact hname.isPlain.append
    (hbefore.isPlain.append (.cons (by decide) (hbehind.isPlain.append hs)))

theorem isPlain_enclosed {opening close : Char} {s : List Char} (hs : IsPlain s)
    (hopening : isPlainChar opening = true) (hclose : isPlainChar close = true) :
    IsPlain (opening :: (s ++ [close])) :=
  .cons hopening (hs.append (isPlain_singleton hclose))

/-- **What the grammar spells is plain.** -/
theorem Form.Spells.isPlain {s : List Char} {f : Form} (h : f.Spells s) : IsPlain s := by
  refine Form.Spells.induction (motive := fun s _ => IsPlain s)
    ?wordNull ?wordTrue ?wordFalse ?number ?string ?emptyArray ?array ?emptyObject ?object h
  case wordNull => exact isPlain_of_all (by decide)
  case wordTrue => exact isPlain_of_all (by decide)
  case wordFalse => exact isPlain_of_all (by decide)
  case number => exact fun ht => ht.isPlain
  case string => exact fun ht => ht.isPlain
  case emptyArray => exact fun hblanks => isPlain_enclosed hblanks.isPlain (by decide) (by decide)
  case array => exact fun ht => isPlain_enclosed ht.isPlain (by decide) (by decide)
  case emptyObject => exact fun hblanks => isPlain_enclosed hblanks.isPlain (by decide) (by decide)
  case object =>
    intro t members ht
    have hplain := ht.imp_of_mem fun _ _ _ hm => hm.isPlain
    exact isPlain_enclosed hplain.isPlain (by decide) (by decide)

/-- The excluded words do not stand outside the strings of a document. -/
theorem not_infix_outside {s : List Char} {f : Form} (h : f.IsDocument s) {word : String}
    (hword : word ∈ excludedWords) : ¬ word.toList <:+: outside s := by
  obtain ⟨hbefore, hspells, hbehind⟩ := h
  obtain ⟨shown, hshown, hN, hI⟩ :=
    (hbefore.isPlain.append (hspells.isPlain.append hbehind.isPlain)) []
  rw [List.append_nil, outside, List.append_nil] at hshown
  rw [hshown]
  intro hmeets
  have hletter : ∀ word ∈ excludedWords, 'N' ∈ word.toList ∨ 'I' ∈ word.toList := by decide
  rcases hletter word hword with hmem | hmem
  · exact hN (hmeets.subset hmem)
  · exact hI (hmeets.subset hmem)

/-! ### Words in strings -/

theorem Body.append {s t : List Char} {found more : List Piece} (hs : Body s found)
    (ht : Body t more) : Body (s ++ t) (found ++ more) := by
  induction hs with
  | empty => exact ht
  | plain hcontrol hquote hbackslash _ ih => exact .plain hcontrol hquote hbackslash ih
  | escape he _ ih => exact .escape he ih
  | unit hlength hdigits _ ih =>
      rw [List.cons_append, List.cons_append, List.append_assoc]
      exact .unit hlength hdigits ih

/-- Characters that need no escape stand for themselves. -/
theorem body_of_forall {s : List Char}
    (h : ∀ c ∈ s, 0x20 ≤ c.toNat ∧ c ≠ '"' ∧ c ≠ '\\') : Body s (s.map .char) := by
  induction s with
  | nil => exact .empty
  | cons c more ih =>
      obtain ⟨⟨hcontrol, hquote, hbackslash⟩, hmore⟩ := List.forall_mem_cons.1 h
      exact .plain hcontrol hquote hbackslash (ih hmore)

/-- No character goes together with one that is written out. -/
theorem joinPieces_append_char (found more : List Piece) (c : Char) :
    joinPieces (found ++ .char c :: more) = joinPieces found ++ .char c :: joinPieces more := by
  fun_induction joinPieces found with
  | case1 => rfl
  | case2 d rest ih => simp [joinPieces, ih]
  | case3 high low rest hpair ih => simp [joinPieces, hpair, ih]
  | case4 high low rest hpair ih =>
      rw [List.cons_append] at ih
      simp [joinPieces, hpair, ih]
  | case5 n rest hrest ih =>
      cases rest with
      | nil => rfl
      | cons p rest =>
          cases p with
          | char d => exact congrArg (unitPoint n :: ·) ih
          | unit low => exact (hrest low rest rfl).elim

theorem joinPieces_between (found more : List Piece) {word : List Char} (hne : word ≠ []) :
    joinPieces (found ++ (word.map .char ++ more)) =
      joinPieces found ++ (word.map .char ++ joinPieces more) := by
  induction word generalizing found with
  | nil => exact absurd rfl hne
  | cons c rest ih =>
      rw [List.map_cons, List.cons_append, joinPieces_append_char, List.map_cons, List.cons_append]
      cases rest with
      | nil => rfl
      | cons d rest => exact congrArg (joinPieces found ++ .char c :: ·) (ih [] (by simp))

theorem exists_body_of_enclosed {s : List Char} {text : Str}
    (h : Quoted ('"' :: (s ++ ['"'])) text) :
    ∃ found, Body s found ∧ text = ⟨joinPieces found⟩ := by
  generalize hs : '"' :: (s ++ ['"']) = t at h
  obtain @⟨s', found, hbody⟩ := h
  obtain rfl : s = s' := List.append_cancel_right (List.cons.inj hs).2
  exact ⟨found, hbody, rfl⟩

/-- **Whatever a string holds**, a word that needs no escape may be put in. -/
theorem Quoted.between {before behind word : List Char} {a b : Str}
    (hbefore : Quoted ('"' :: (before ++ ['"'])) a) (hbehind : Quoted ('"' :: (behind ++ ['"'])) b)
    (hne : word ≠ []) (hword : ∀ c ∈ word, 0x20 ≤ c.toNat ∧ c ≠ '"' ∧ c ≠ '\\') :
    Quoted ('"' :: (before ++ (word ++ behind) ++ ['"'])) (a ++ (String.ofList word ++ b)) := by
  obtain ⟨found, hfound, rfl⟩ := exists_body_of_enclosed hbefore
  obtain ⟨more, hmore, rfl⟩ := exists_body_of_enclosed hbehind
  have hjoin : (⟨joinPieces found⟩ : Str) ++ (String.ofList word ++ ⟨joinPieces more⟩) =
      ⟨joinPieces (found ++ (word.map .char ++ more))⟩ := by
    simp [← Str.toList_inj, joinPieces_between found more hne]
  rw [hjoin]
  exact .mk (hfound.append ((body_of_forall hword).append hmore))

/-! ### Reading -/

/-- **Reading is strict.**  What is read are the documents, within the limits on nesting and on the
digits of whole numbers, and the value is what is written: every name of an object once, where it
comes up first, with the value that is given to it last.  The words for numbers that are none stand
in no text that is read, unless in a string, where they may stand anywhere. -/
theorem read_eq_ok_iff_isDocument (limit : Nat) (text : String) :
    (∀ v, read limit text = .ok v ↔ ∃ f : Form, f.IsDocument text.toList ∧ f.depth ≤ limit ∧
      f.longest ≤ maxDigits ∧ f.value = v) ∧
    (∀ v, read limit text = .ok v → v.WellFormed ∧
      ∀ word ∈ excludedWords, ¬ word.toList <:+: outside text.toList) ∧
    ∀ word ∈ excludedWords, ∀ before behind a b, Quoted ('"' :: (before ++ ['"'])) a →
      Quoted ('"' :: (behind ++ ['"'])) b →
        Quoted ('"' :: (before ++ (word.toList ++ behind) ++ ['"'])) (a ++ (word ++ b)) := by
  have hread : ∀ v, read limit text = .ok v ↔ ∃ f : Form, f.IsDocument text.toList ∧
      f.depth ≤ limit ∧ f.longest ≤ maxDigits ∧ f.value = v := by
    intro v
    rw [read_eq_ok_iff, document_eq_ok_iff]
    simp only [Form.Fits, and_assoc]
  refine ⟨hread, ?_, ?_⟩
  · intro v hv
    obtain ⟨f, hf, -⟩ := (hread v).1 hv
    exact ⟨wellFormed_of_read hv, fun word hword => not_infix_outside hf hword⟩
  · intro word hword before behind a b hbefore hbehind
    have hplain : ∀ word ∈ excludedWords, word.toList ≠ [] ∧
        ∀ c ∈ word.toList, 0x20 ≤ c.toNat ∧ c ≠ '"' ∧ c ≠ '\\' := by simp [excludedWords]
    obtain ⟨hne, hchars⟩ := hplain word hword
    have hquoted := hbefore.between hbehind hne hchars
    rwa [String.ofList_toList] at hquoted

end BucketAccess.Json
