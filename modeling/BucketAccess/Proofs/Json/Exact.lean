/-
**Documents without rounded numbers.**

The values without a fraction or an exponent in a number are the ones about which nothing is ever
lost: whichever way such a document is written, the text is in ASCII, and the document is read back
from it with its members in their order.

Main definitions:

* `BucketAccess.Json.Value.IsExact` — the values in which no number is rounded;
* `BucketAccess.Json.Value.WrittenAs` — the texts that a document is written as.

Main results:

* `BucketAccess.Json.ascii_of_mem_written` — documents are written in ASCII, whichever blanks stand
  between the tokens;
* `BucketAccess.Json.Value.IsExact.read_written` — with any blanks between the tokens and behind
  them, such a document is read back;
* `BucketAccess.Json.ascii_and_read_of_writtenAs` — **every text that such a document is written
  as is in ASCII and is read back**.
-/

import BucketAccess.Proofs.Json.Ascii
import BucketAccess.Saving

set_option relaxedAutoImplicit false
set_option autoImplicit false

namespace BucketAccess.Json

open BucketAccess.Text (Str)

variable {v : Value}

/-! ### Values -/

/-- The values in which no number is rounded: numbers are whole, with no more digits than are
accepted, no two halves in a string make a character, and no object names a member twice. -/
inductive Value.IsExact : Value → Prop where
  | null : IsExact .null
  | bool (b : Bool) : IsExact (.bool b)
  | int {i : Int} (h : i.natAbs < 10 ^ maxDigits) : IsExact (.int i)
  | str {s : Str} (h : IsJoined s) : IsExact (.str s)
  | arr {items : List Value} (h : ∀ v ∈ items, IsExact v) : IsExact (.arr items)
  | obj {members : Members} (hkeys : members.keys.Nodup) (hnames : ∀ m ∈ members, IsJoined m.1)
      (h : ∀ m ∈ members, IsExact m.2) : IsExact (.obj members)

theorem Value.IsExact.wellFormed (h : v.IsExact) : v.WellFormed := by
  induction h with
  | null => exact .null
  | bool b => exact .bool b
  | int hsize => exact .int (Decimal.length_digits_le (by decide) hsize)
  | str hs => exact .str hs
  | arr _ ih => exact .arr ih
  | obj hkeys hnames _ ih => exact .obj hkeys hnames ih

/-- No number in such a value is infinite. -/
theorem Value.IsExact.excluded?_eq_none (h : v.IsExact) : v.excluded? = none := by
  induction h with
  | null => rfl
  | bool b => rfl
  | int => rfl
  | str => rfl
  | arr _ ih =>
      rw [excluded?, excludedItem?_eq]
      exact List.findSome?_eq_none_iff.2 ih
  | obj _ _ _ ih =>
      rw [excluded?, excludedMember?_eq]
      exact List.findSome?_eq_none_iff.2 ih

/-! ### Writing and reading -/

theorem ascii_of_isSpace {c : Char} (h : isSpace c = true) : c.toNat < 0x80 := by
  simp only [isSpace, Bool.or_eq_true, beq_iff_eq] at h
  rcases h with ((rfl | rfl) | rfl) | rfl <;> decide

/-- **Documents are written in ASCII**, whichever blanks stand between the tokens. -/
theorem ascii_of_mem_written (hwf : v.WellFormed) {spacing : Spacing} (hspacing : spacing.IsBlank)
    {depth : Nat} {c : Char} (h : c ∈ v.written spacing depth) : c.toNat < 0x80 := by
  rcases isVisible_or_blank_of_mem_written hwf h with hvisible | ⟨_, hblank | hblank | hblank⟩
  · exact Nat.lt_of_le_of_lt hvisible.2 (by decide)
  · exact ascii_of_isSpace (hspacing.opening _ c hblank)
  · exact ascii_of_isSpace (hspacing.between _ c hblank)
  · exact ascii_of_isSpace (hspacing.closing _ c hblank)

/-- With any blanks between the tokens and behind them, the document is read back. -/
theorem Value.IsExact.read_written (h : v.IsExact) {limit : Nat} (hdepth : v.depth ≤ limit)
    {spacing : Spacing} (hspacing : spacing.IsBlank) {blanks : List Char}
    (hblanks : ∀ c ∈ blanks, isSpace c = true) :
    read limit (String.ofList (v.written spacing 0 ++ blanks)) = .ok v := by
  rw [Json.read_written hspacing h.wellFormed hdepth hblanks, h.excluded?_eq_none]

/-! ### The texts of a document -/

/-- The texts that a document is written as. -/
inductive Value.WrittenAs (v : Value) : String → Prop where
  /-- All of it on one line. -/
  | oneLine : v.WrittenAs (v.render oneLine)
  /-- Each element on a line of its own, as it is printed. -/
  | printed : v.WrittenAs (v.render indented)
  /-- With a line feed at the end, as it is saved. -/
  | saved : v.WrittenAs (String.ofList (Saving.savedText v))

/-- Behind what is written there is at most a line feed. -/
theorem Value.WrittenAs.exists_written {text : String} (h : v.WrittenAs text) :
    ∃ spacing blanks, Spacing.IsBlank spacing ∧ (∀ c ∈ blanks, isSpace c = true) ∧
      text = String.ofList (v.written spacing 0 ++ blanks) := by
  cases h with
  | oneLine => exact ⟨Json.oneLine, [], isBlank_oneLine, by simp, by simp [render]⟩
  | printed => exact ⟨indented, [], isBlank_indented, by simp, by simp [render]⟩
  | saved => exact ⟨indented, ['\n'], isBlank_indented, by simp [isSpace], rfl⟩

/-- **Every text that a document without rounded numbers is written as is in ASCII and is read
back**, with the members in their order. -/
theorem ascii_and_read_of_writtenAs (h : v.IsExact) {limit : Nat} (hdepth : v.depth ≤ limit)
    {text : String} (htext : v.WrittenAs text) :
    (∀ c ∈ text.toList, c.toNat < 0x80) ∧ read limit text = .ok v := by
  obtain ⟨spacing, blanks, hspacing, hblanks, rfl⟩ := htext.exists_written
  refine ⟨fun c hc => ?_, h.read_written hdepth hspacing hblanks⟩
  rw [String.toList_ofList, List.mem_append] at hc
  rcases hc with hc | hc
  · exact ascii_of_mem_written h.wellFormed hspacing hc
  · exact ascii_of_isSpace (hblanks c hc)

/-- A document with empty containers, a negative number beyond sixty-four bits, and characters that
have to be escaped, in a string and in names. -/
def escapedDocument : Value :=
  .obj [("\"quoted\"\\", .arr [.null, .bool true, .int (-123456789012345678901234567890), .arr []]),
    ("\x00\n\x7f", .obj []), ("é😀", .str "\u2028 \t/")]

theorem isExact_escapedDocument : escapedDocument.IsExact := by
  have hnames : ∀ m ∈ [(("\x00\n\x7f" : Str), Value.obj []), ("é😀", .str "\u2028 \t/")],
      IsJoined m.1 := by
    simpa using ⟨isJoined_coe _, isJoined_coe _⟩
  refine .obj (by decide) (List.forall_mem_cons.2 ⟨isJoined_coe _, hnames⟩)
    (List.forall_mem_cons.2 ⟨.arr ?_, ?_⟩)
  · have hsize : (-123456789012345678901234567890 : Int).natAbs < 10 ^ maxDigits :=
      Nat.lt_of_lt_of_le (by decide : 123456789012345678901234567890 < 10 ^ 30)
        (Nat.pow_le_pow_right (by decide) (by decide))
    simpa using ⟨.null, .bool true, .int hsize, .arr (by simp)⟩
  · simpa using ⟨.obj (by decide) (by simp) (by simp), .str (isJoined_coe _)⟩

/-- The saved text of such a document is read back. -/
theorem ascii_and_read_escapedDocument : escapedDocument.IsExact ∧
    escapedDocument.depth ≤ 3 ∧
      escapedDocument.WrittenAs (String.ofList (Saving.savedText escapedDocument)) ∧
        (∀ c ∈ (String.ofList (Saving.savedText escapedDocument)).toList, c.toNat < 0x80) ∧
          read 3 (String.ofList (Saving.savedText escapedDocument)) = .ok escapedDocument := by
  have hdepth : escapedDocument.depth ≤ 3 := by decide
  exact ⟨isExact_escapedDocument, hdepth, .saved,
    ascii_and_read_of_writtenAs isExact_escapedDocument hdepth .saved⟩

end BucketAccess.Json
