/-
**The grammar of documents.**

Which texts are documents is laid down by the grammar of RFC 8259, one constructor for each
production.  A text is spelled by a form, which keeps everything that is written in it: an object
has its members in order, with all the names that come up more than once, and a number has its
parts.  What a form stands for is a value.  There the name of a member stands where it comes up
first, and the value that is given last counts.

Main definitions:

* `BucketAccess.Json.Form` — what is written in a document;
* `BucketAccess.Json.Form.Spells` — **the texts of a form**, and `BucketAccess.Json.Form.IsDocument`
  with blanks around it;
* `BucketAccess.Json.Form.value` — what a form stands for;
* `BucketAccess.Json.Form.depth`, `BucketAccess.Json.Form.longest` — how deep it is nested and how
  long its whole numbers are.

Main results:

* `BucketAccess.Json.Form.Spells.induction` — what holds of all spelled forms, by one case for each
  production.
-/

import BucketAccess.Json.Number
import BucketAccess.Json.Text
import BucketAccess.Proofs.Json.Naming
import Mathlib.Logic.Basic

set_option relaxedAutoImplicit false
set_option autoImplicit false

namespace BucketAccess.Json

open BucketAccess.Text (Str hexNumber? isDigit)

/-! ### Blanks -/

/-- Spaces, tabs, line feeds and carriage returns. -/
def IsBlanks (s : List Char) : Prop :=
  ∀ c ∈ s, c = ' ' ∨ c = '\t' ∨ c = '\n' ∨ c = '\r'

/-! ### Strings -/

/-- What a letter behind a backslash stands for. -/
inductive Escape : Char → Char → Prop where
  | quote : Escape '"' '"'
  | backslash : Escape '\\' '\\'
  | slash : Escape '/' '/'
  | backspace : Escape 'b' '\x08'
  | formFeed : Escape 'f' '\x0c'
  | lineFeed : Escape 'n' '\n'
  | carriageReturn : Escape 'r' '\r'
  | tab : Escape 't' '\t'

/-- What stands between the quotes of a string, element by element. -/
inductive Body : List Char → List Piece → Prop where
  | empty : Body [] []
  | plain {c : Char} {s : List Char} {found : List Piece} (hcontrol : 0x20 ≤ c.toNat)
      (hquote : c ≠ '"') (hbackslash : c ≠ '\\') (h : Body s found) :
      Body (c :: s) (.char c :: found)
  | escape {e c : Char} {s : List Char} {found : List Piece} (he : Escape e c) (h : Body s found) :
      Body ('\\' :: e :: s) (.char c :: found)
  | unit {digits s : List Char} {n : Nat} {found : List Piece} (hlength : digits.length = 4)
      (hdigits : hexNumber? digits = some n) (h : Body s found) :
      Body ('\\' :: 'u' :: (digits ++ s)) (.unit n :: found)

/-- A string between its quotes. -/
inductive Quoted : List Char → Str → Prop where
  | mk {s : List Char} {found : List Piece} (h : Body s found) :
      Quoted ('"' :: (s ++ ['"'])) (⟨joinPieces found⟩)

/-! ### Numbers -/

/-- One digit or more. -/
def IsRow (digits : List Char) : Prop :=
  digits ≠ [] ∧ ∀ c ∈ digits, isDigit c = true

namespace Numeral

/-- A minus sign, or none. -/
inductive Sign : List Char → Bool → Prop where
  | plus : Sign [] false
  | minus : Sign ['-'] true

/-- The digits in front of the point: a zero, or a row of digits that does not start with one. -/
inductive Whole : List Char → Prop where
  | zero : Whole ['0']
  | row {digits : List Char} (h : IsRow digits) (hzero : digits.head? ≠ some '0') : Whole digits

/-- A point and the digits behind it, or neither. -/
inductive Fraction : List Char → List Char → Prop where
  | none : Fraction [] []
  | point {digits : List Char} (h : IsRow digits) : Fraction ('.' :: digits) digits

/-- A letter, a sign if there is one, and the digits of a power of ten, or nothing. -/
inductive Power : List Char → Option Int → Prop where
  | none : Power [] none
  | unsigned {letter : Char} {digits : List Char} (hletter : letter = 'e' ∨ letter = 'E')
      (h : IsRow digits) : Power (letter :: digits) (some (Decimal.value digits))
  | plus {letter : Char} {digits : List Char} (hletter : letter = 'e' ∨ letter = 'E')
      (h : IsRow digits) : Power (letter :: '+' :: digits) (some (Decimal.value digits))
  | minus {letter : Char} {digits : List Char} (hletter : letter = 'e' ∨ letter = 'E')
      (h : IsRow digits) : Power (letter :: '-' :: digits) (some (-Decimal.value digits))

/-- The text of a number, part by part. -/
inductive Spells : List Char → Numeral → Prop where
  | mk {sign whole point power digits : List Char} {negative : Bool} {exponent : Option Int}
      (hsign : Sign sign negative) (hwhole : Whole whole) (hpoint : Fraction point digits)
      (hpower : Power power exponent) :
      Spells (sign ++ (whole ++ (point ++ power))) ⟨negative, whole, digits, exponent⟩

/-- Whether a number is whole: it has neither a fraction nor an exponent. -/
def isWhole (n : Numeral) : Bool :=
  n.fraction.isEmpty && n.exponent.isNone

/-- What a number stands for, however many digits it has. -/
def meaning (n : Numeral) : Value :=
  let size : Int := Decimal.value n.whole
  if n.isWhole then .int (if n.negative then -size else size)
  else .real (.ofDecimal n.negative (Decimal.value (n.whole ++ n.fraction))
    (n.exponent.getD 0 - n.fraction.length))

/-- The digits of a number that count: those of a whole number. -/
def wholeDigits (n : Numeral) : Nat :=
  if n.isWhole then n.whole.length else 0

end Numeral

/-! ### Containers -/

section Containers

variable {α : Type}

/-- One element or more with blanks around them and a comma between neighbours. -/
inductive Elements (spells : List Char → α → Prop) : List Char → List α → Prop where
  | last {before s behind : List Char} {a : α} (hbefore : IsBlanks before) (h : spells s a)
      (hbehind : IsBlanks behind) : Elements spells (before ++ (s ++ behind)) [a]
  | more {before s behind rest : List Char} {a : α} {found : List α} (hbefore : IsBlanks before)
      (h : spells s a) (hbehind : IsBlanks behind) (hrest : Elements spells rest found) :
      Elements spells (before ++ (s ++ (behind ++ ',' :: rest))) (a :: found)

/-- A name, a colon with blanks around it, and an element. -/
inductive MemberOf (spells : List Char → α → Prop) : List Char → Str × α → Prop where
  | mk {name before behind s : List Char} {key : Str} {a : α} (hname : Quoted name key)
      (hbefore : IsBlanks before) (hbehind : IsBlanks behind) (h : spells s a) :
      MemberOf spells (name ++ (before ++ ':' :: (behind ++ s))) (key, a)

end Containers

/-! ### Forms -/

/-- What is written in a document. -/
inductive Form where
  | null
  | bool (b : Bool)
  | number (n : Numeral)
  | string (s : Str)
  | array (items : List Form)
  /-- All members in order, with the names that come up more than once. -/
  | object (members : List (Str × Form))

/-- **The texts of a form.** -/
inductive Form.Spells : List Char → Form → Prop where
  | wordNull : Spells ['n', 'u', 'l', 'l'] .null
  | wordTrue : Spells ['t', 'r', 'u', 'e'] (.bool true)
  | wordFalse : Spells ['f', 'a', 'l', 's', 'e'] (.bool false)
  | number {s : List Char} {n : Numeral} (h : n.Spells s) : Spells s (.number n)
  | string {s : List Char} {text : Str} (h : Quoted s text) : Spells s (.string text)
  | emptyArray {blanks : List Char} (h : IsBlanks blanks) :
      Spells ('[' :: (blanks ++ [']'])) (.array [])
  | array {s : List Char} {items : List Form} (h : Elements Spells s items) :
      Spells ('[' :: (s ++ [']'])) (.array items)
  | emptyObject {blanks : List Char} (h : IsBlanks blanks) :
      Spells ('{' :: (blanks ++ ['}'])) (.object [])
  | object {s : List Char} {members : List (Str × Form)}
      (h : Elements (MemberOf Spells) s members) :
      Spells ('{' :: (s ++ ['}'])) (.object members)

/-- A text is a document when a form is all of it, apart from blanks. -/
inductive Form.IsDocument : List Char → Form → Prop where
  | mk {before s behind : List Char} {f : Form} (hbefore : IsBlanks before) (h : f.Spells s)
      (hbehind : IsBlanks behind) : IsDocument (before ++ (s ++ behind)) f

/-- What elements have in common, element by element. -/
theorem Elements.imp_of_mem {α : Type} {spells spells' : List Char → α → Prop} {s : List Char}
    {found : List α} (h : Elements spells s found)
    (himp : ∀ t, ∀ a ∈ found, spells t a → spells' t a) : Elements spells' s found := by
  induction h with
  | last hbefore ha hbehind =>
      exact .last hbefore (himp _ _ List.mem_cons_self ha) hbehind
  | more hbefore ha hbehind _ ih =>
      refine .more hbefore (himp _ _ List.mem_cons_self ha) hbehind (ih ?_)
      intro t b hb
      exact himp t b (List.mem_cons_of_mem _ hb)

theorem MemberOf.imp {α : Type} {spells spells' : List Char → α → Prop} {s : List Char}
    {m : Str × α} (h : MemberOf spells s m) (himp : ∀ t, spells t m.2 → spells' t m.2) :
    MemberOf spells' s m := by
  obtain ⟨hname, hbefore, hbehind, ha⟩ := h
  exact ⟨hname, hbefore, hbehind, himp _ ha⟩

/-- **What holds of all spelled forms**: one case for each production, in which it holds of the
forms inside a container already. -/
theorem Form.Spells.induction {motive : List Char → Form → Prop}
    (wordNull : motive ['n', 'u', 'l', 'l'] .null)
    (wordTrue : motive ['t', 'r', 'u', 'e'] (.bool true))
    (wordFalse : motive ['f', 'a', 'l', 's', 'e'] (.bool false))
    (number : ∀ {s n}, Numeral.Spells s n → motive s (.number n))
    (string : ∀ {s text}, Quoted s text → motive s (.string text))
    (emptyArray : ∀ {blanks}, IsBlanks blanks → motive ('[' :: (blanks ++ [']'])) (.array []))
    (array : ∀ {s items}, Elements motive s items → motive ('[' :: (s ++ [']'])) (.array items))
    (emptyObject : ∀ {blanks}, IsBlanks blanks → motive ('{' :: (blanks ++ ['}'])) (.object []))
    (object : ∀ {s members}, Elements (MemberOf motive) s members →
      motive ('{' :: (s ++ ['}'])) (.object members))
    {s : List Char} {f : Form} (h : f.Spells s) : motive s f :=
  @Form.Spells.rec (fun s f _ => motive s f) (fun s items _ => Elements motive s items)
    (fun s members _ => Elements (MemberOf motive) s members) (fun s m _ => MemberOf motive s m)
    wordNull wordTrue wordFalse number string emptyArray (fun _ h => array h) emptyObject
    (fun _ h => object h)
    (fun hbefore _ hbehind h => .last hbefore h hbehind)
    (fun hbefore _ hbehind _ h hrest => .more hbefore h hbehind hrest)
    (fun hbefore _ hbehind h => .last hbefore h hbehind)
    (fun hbefore _ hbehind _ h hrest => .more hbefore h hbehind hrest)
    (fun hname hbefore hbehind _ h => ⟨hname, hbefore, hbehind, h⟩) _ _ h

/-! ### What forms stand for -/

mutual

/-- What a form stands for. -/
def Form.value : Form → Value
  | .null => .null
  | .bool b => .bool b
  | .number n => n.meaning
  | .string s => .str s
  | .array items => .arr (valuesOfItems items)
  | .object members => .obj (lastNamed (valuesOfMembers members))

/-- What the items of an array stand for. -/
def valuesOfItems : List Form → List Value
  | [] => []
  | f :: rest => f.value :: valuesOfItems rest

/-- What the members of an object stand for, name by name. -/
def valuesOfMembers : List (Str × Form) → List (Str × Value)
  | [] => []
  | (key, f) :: rest => (key, f.value) :: valuesOfMembers rest

end

mutual

/-- The greatest size of a number in a form, where containers change the size of what is in them. -/
def Form.greatest (number : Numeral → Nat) (container : Nat → Nat) : Form → Nat
  | .number n => number n
  | .array items => container (greatestItem number container items)
  | .object members => container (greatestMember number container members)
  | _ => 0

/-- The greatest size in a list of items. -/
def greatestItem (number : Numeral → Nat) (container : Nat → Nat) : List Form → Nat
  | [] => 0
  | f :: rest => max (f.greatest number container) (greatestItem number container rest)

/-- The greatest size in a list of members. -/
def greatestMember (number : Numeral → Nat) (container : Nat → Nat) : List (Str × Form) → Nat
  | [] => 0
  | (_, f) :: rest => max (f.greatest number container) (greatestMember number container rest)

end

/-- How many containers are inside one another. -/
def Form.depth (f : Form) : Nat :=
  f.greatest (fun _ => 0) (· + 1)

/-- How many digits the longest whole number has. -/
def Form.longest (f : Form) : Nat :=
  f.greatest Numeral.wholeDigits id

theorem valuesOfItems_eq (items : List Form) : valuesOfItems items = items.map Form.value := by
  induction items with
  | nil => rfl
  | cons f rest ih => rw [valuesOfItems, ih, List.map_cons]

theorem valuesOfMembers_eq (members : List (Str × Form)) :
    valuesOfMembers members = members.map fun m => (m.1, m.2.value) := by
  induction members with
  | nil => rfl
  | cons m rest ih => rw [valuesOfMembers, ih, List.map_cons]

section Greatest

variable {number : Numeral → Nat} {container : Nat → Nat} {bound : Nat}

theorem greatestItem_le_iff {items : List Form} :
    greatestItem number container items ≤ bound ↔
      ∀ f ∈ items, f.greatest number container ≤ bound := by
  induction items with
  | nil => simp [greatestItem]
  | cons f rest ih => rw [greatestItem, Nat.max_le, ih, List.forall_mem_cons]

theorem greatestMember_le_iff {members : List (Str × Form)} :
    greatestMember number container members ≤ bound ↔
      ∀ m ∈ members, m.2.greatest number container ≤ bound := by
  induction members with
  | nil => simp [greatestMember]
  | cons m rest ih => rw [greatestMember, Nat.max_le, ih, List.forall_mem_cons]

end Greatest

/-- A form is nested at most so deep, and it holds no whole number with too many digits. -/
def Form.Fits (n : Nat) (f : Form) : Prop :=
  f.depth ≤ n ∧ f.longest ≤ maxDigits

theorem Form.fits_array_iff {n : Nat} {items : List Form} :
    (Form.array items).Fits (n + 1) ↔ ∀ f ∈ items, f.Fits n := by
  unfold Fits depth longest
  rw [greatest, greatest, Nat.add_le_add_iff_right, id_eq, greatestItem_le_iff, greatestItem_le_iff]
  exact forall₂_and.symm

theorem Form.fits_object_iff {n : Nat} {members : List (Str × Form)} :
    (Form.object members).Fits (n + 1) ↔ ∀ m ∈ members, m.2.Fits n := by
  unfold Fits depth longest
  rw [greatest, greatest, Nat.add_le_add_iff_right, id_eq, greatestMember_le_iff,
    greatestMember_le_iff]
  exact forall₂_and.symm

theorem Form.not_fits_array (items : List Form) : ¬ (Form.array items).Fits 0 :=
  fun h => absurd h.1 (Nat.not_succ_le_zero _)

theorem Form.not_fits_object (members : List (Str × Form)) : ¬ (Form.object members).Fits 0 :=
  fun h => absurd h.1 (Nat.not_succ_le_zero _)

end BucketAccess.Json
