/-
**Texts with halves of characters.**

The characters beyond the first 65536 are made of two halves, and a document may name one half
without the other by its number.  Such a half is no character and has no place in a text that is
printed; but it can be read, told from other halves, and written as a number again.  So the strings
of a document are rows of points, each a character or half of one.

Main definitions:

* `BucketAccess.Text.Half`, `BucketAccess.Text.Point` — half of a character, and a character or
  half of one;
* `BucketAccess.Text.Str` — rows of points, among them the texts;
* `BucketAccess.Text.Str.text` — the text that a row is, or the first halves in it;
* `BucketAccess.Text.Str.dropLead?`, `BucketAccess.Text.Str.isOneOf` — what follows a given start,
  and whether a row is one of several texts.

Main results:

* `BucketAccess.Text.Str.coe_inj`, `BucketAccess.Text.Str.coe_append` — texts keep their sense;
* `BucketAccess.Text.Str.text_eq_ok_iff` — **a row is a text when it has no half**.
-/

import BucketAccess.Text.Hex
import BucketAccess.Text.Split

set_option relaxedAutoImplicit false
set_option autoImplicit false

namespace BucketAccess.Text

/-! ### Points -/

/-- Half of a character: a unit of sixteen bits that is no character on its own. -/
structure Half where
  /-- The number of the unit. -/
  unit : Nat
  /-- It is not below the first half. -/
  lower : 0xD800 ≤ unit
  /-- It is not above the last half. -/
  upper : unit ≤ 0xDFFF
  deriving DecidableEq

/-- A character, or half of one. -/
inductive Point where
  | char (c : Char)
  | half (h : Half)
  deriving DecidableEq

instance : Coe Char Point := ⟨.char⟩

namespace Point

/-- Whether a point is a character of a class.  No class has halves. -/
def isIn (p : Char → Bool) : Point → Bool
  | .char c => p c
  | .half _ => false

/-- Whether a point is half of a character. -/
def isHalf : Point → Bool
  | .char _ => false
  | .half _ => true

/-- The character that a point is, unless it is half of one. -/
def char? : Point → Option Char
  | .char c => some c
  | .half _ => none

@[simp] theorem isIn_char (p : Char → Bool) (c : Char) : isIn p (.char c) = p c := rfl

@[simp] theorem isIn_half (p : Char → Bool) (h : Half) : isIn p (.half h) = false := rfl

/-- The characters of a text are found again among its points. -/
theorem filterMap_char?_map (chars : List Char) : (chars.map .char).filterMap char? = chars := by
  rw [List.filterMap_map]
  exact List.filterMap_some

theorem isIn_eq_true_iff {p : Char → Bool} {a : Point} :
    isIn p a = true ↔ ∃ c, a = .char c ∧ p c = true := by
  cases a <;> simp

end Point

/-! ### Rows -/

/-- A row of points. -/
structure Str where
  /-- The points, in order. -/
  toList : List Point
  deriving DecidableEq

namespace Str

/-- A text as a row. -/
@[coe] def ofString (text : String) : Str :=
  ⟨text.toList.map .char⟩

instance : Coe String Str := ⟨ofString⟩

instance : Append Str := ⟨fun s t => ⟨s.toList ++ t.toList⟩⟩

instance : Inhabited Str := ⟨""⟩

/-- Whether there are no points in a row. -/
def isEmpty (s : Str) : Bool :=
  s.toList.isEmpty

/-- Several rows put together. -/
def join (rows : List Str) : Str :=
  ⟨rows.flatMap toList⟩

/-- What follows a given start, or nothing where a row starts otherwise. -/
def dropLead? (s : Str) (lead : String) : Option Str :=
  (Text.dropLead? (lead.toList.map .char) s.toList).map mk

variable {s t r : Str}

theorem toList_inj : s.toList = t.toList ↔ s = t := by
  cases s
  cases t
  simp

@[simp] theorem toList_coe (text : String) : (text : Str).toList = text.toList.map .char := rfl

@[simp] theorem toList_append (s t : Str) : (s ++ t).toList = s.toList ++ t.toList := rfl

theorem map_char_inj {a b : List Char} : a.map Point.char = b.map Point.char ↔ a = b :=
  List.map_inj_right fun _ _ => Point.char.inj

/-- Different texts are different rows. -/
@[simp, norm_cast] theorem coe_inj {a b : String} : (a : Str) = b ↔ a = b := by
  rw [← toList_inj, toList_coe, toList_coe, map_char_inj, String.toList_inj]

@[simp, norm_cast] theorem coe_append (a b : String) : ((a ++ b : String) : Str) = a ++ b := by
  simp [← toList_inj]

theorem append_assoc (s t r : Str) : s ++ t ++ r = s ++ (t ++ r) := by
  simp [← toList_inj]

@[simp] theorem append_empty (s : Str) : s ++ ("" : Str) = s := by
  simp [← toList_inj]

@[simp] theorem empty_append (s : Str) : ("" : Str) ++ s = s := by
  simp [← toList_inj]

theorem append_right_inj (s : Str) : s ++ t = s ++ r ↔ t = r := by
  simp [← toList_inj]

theorem isEmpty_iff : s.isEmpty = true ↔ s = "" := by
  simp [isEmpty, ← toList_inj]

@[simp] theorem join_nil : join [] = "" := rfl

@[simp] theorem join_cons (s : Str) (rows : List Str) : join (s :: rows) = s ++ join rows := by
  simp [join, ← toList_inj]

theorem dropLead?_eq_some_iff {lead : String} : s.dropLead? lead = some r ↔ s = lead ++ r := by
  rw [dropLead?, Option.map_eq_some_iff, ← toList_inj, toList_append, toList_coe]
  constructor
  · rintro ⟨rest, hrest, rfl⟩
    exact Text.dropLead?_eq_some_iff.1 hrest
  · intro h
    exact ⟨r.toList, Text.dropLead?_eq_some_iff.2 h, rfl⟩

@[simp] theorem dropLead?_append (lead : String) (s : Str) : (lead ++ s).dropLead? lead = some s :=
  dropLead?_eq_some_iff.2 rfl

/-! ### Texts among the rows -/

/-- Halves next to one another: where the first of them stands, and how many follow it. -/
structure Halves where
  /-- How many points stand before the first half. -/
  position : Nat
  /-- The first half. -/
  first : Half
  /-- How many halves follow it. -/
  more : Nat
  deriving DecidableEq

/-- The wording for halves that stand in the way of printing. -/
def Halves.message (h : Halves) : String :=
  let what :=
    if h.more = 0 then
      s!"character '\\u{String.ofList (hex 4 h.first.unit)}' in position {h.position}"
    else s!"characters in position {h.position}-{h.position + h.more}"
  s!"'utf-8' codec can't encode {what}: surrogates not allowed"

/-- The characters of points, or the first halves among them; so many points stand before. -/
def charsFrom (position : Nat) : List Point → Except Halves (List Char)
  | [] => .ok []
  | .char c :: rest => (charsFrom (position + 1) rest).map (c :: ·)
  | .half h :: rest => .error ⟨position, h, (rest.takeWhile Point.isHalf).length⟩

/-- The text that a row is, or the first halves in it. -/
def text (s : Str) : Except Halves String :=
  (charsFrom 0 s.toList).map String.ofList

theorem charsFrom_map_char (position : Nat) (chars : List Char) :
    charsFrom position (chars.map .char) = .ok chars := by
  induction chars generalizing position with
  | nil => rfl
  | cons c rest ih => simp [charsFrom, ih, Except.map]

theorem eq_map_char_of_charsFrom {position : Nat} {points : List Point} {chars : List Char}
    (h : charsFrom position points = .ok chars) : points = chars.map .char := by
  induction points generalizing position chars with
  | nil => simp [charsFrom] at h; simp [← h]
  | cons p rest ih =>
      cases p with
      | half => simp [charsFrom] at h
      | char c =>
          rw [charsFrom] at h
          cases hrest : charsFrom (position + 1) rest with
          | error => simp [hrest, Except.map] at h
          | ok more =>
              obtain rfl : c :: more = chars := by simpa [hrest, Except.map] using h
              rw [List.map_cons, ← ih hrest]

@[simp] theorem text_coe (a : String) : (a : Str).text = .ok a := by
  simp [text, charsFrom_map_char, Except.map]

/-- **A row is a text when it has no half.** -/
theorem text_eq_ok_iff {a : String} : s.text = .ok a ↔ s = a := by
  constructor
  · intro h
    unfold text at h
    cases hchars : charsFrom 0 s.toList with
    | error => simp [hchars, Except.map] at h
    | ok chars =>
        obtain rfl : String.ofList chars = a := by simpa [hchars, Except.map] using h
        rw [← toList_inj, toList_coe, String.toList_ofList, eq_map_char_of_charsFrom hchars]
  · rintro rfl
    exact text_coe a

/-- Whether a row is one of several texts. -/
def isOneOf (s : Str) (texts : List String) : Bool :=
  match s.text with
  | .ok text => texts.contains text
  | .error _ => false

theorem isOneOf_coe {a : String} {texts : List String} :
    (a : Str).isOneOf texts = true ↔ a ∈ texts := by
  simp [isOneOf]

@[simp] theorem isOneOf_iff {texts : List String} :
    s.isOneOf texts = true ↔ ∃ text ∈ texts, s = text := by
  constructor
  · intro h
    cases htext : s.text with
    | error => simp [isOneOf, htext] at h
    | ok text =>
        obtain rfl := text_eq_ok_iff.1 htext
        exact ⟨text, isOneOf_coe.1 h, rfl⟩
  · rintro ⟨text, hmem, rfl⟩
    exact isOneOf_coe.2 hmem

end Str

end BucketAccess.Text
