/-
**Documents are written in ASCII.**

Besides the blanks between the tokens, only visible ASCII characters are written.  So the bytes of a
saved document are its characters, and no line ending in it can be taken for another one.

Main definitions:

* `BucketAccess.Json.IsVisible` — the visible ASCII characters and the space.

Main results:

* `BucketAccess.Json.isVisible_or_blank_of_mem_written` — **only visible characters and the blanks
  between the tokens are written**;
* `BucketAccess.Json.isVisible_or_newLine_of_mem_written` — with each element on a line of its own,
  only visible characters and line feeds.
-/

import BucketAccess.Proofs.Json.RoundTrip

set_option relaxedAutoImplicit false
set_option autoImplicit false

namespace BucketAccess.Json

open BucketAccess.Decimal (Double Parts intDigits plainLayout)
open BucketAccess.Text (Str isDigit)

/-- The visible ASCII characters and the space. -/
def IsVisible (c : Char) : Prop :=
  0x20 ≤ c.toNat ∧ c.toNat ≤ 0x7E

instance (c : Char) : Decidable (IsVisible c) :=
  inferInstanceAs (Decidable (_ ∧ _))

/-- A text of visible characters is checked character by character. -/
theorem isVisible_of_mem {s : List Char} (hs : s.all (fun d => IsVisible d) = true) {c : Char}
    (h : c ∈ s) : IsVisible c := by
  simpa using List.all_eq_true.1 hs c h

/-! ### Numbers -/

theorem isVisible_of_isDigit {c : Char} (h : isDigit c = true) : IsVisible c := by
  simp only [isDigit, Bool.and_eq_true, decide_eq_true_eq, Char.le_def, UInt32.le_iff_toNat_le] at h
  have hzero : ('0' : Char).val.toNat = 0x30 := by decide
  have hnine : ('9' : Char).val.toNat = 0x39 := by decide
  rw [hzero, hnine] at h
  simp only [IsVisible, Char.toNat]
  omega

theorem isVisible_of_mem_text {p : Parts} (hp : p.WellFormed) {c : Char} (h : c ∈ p.text) :
    IsVisible c := by
  simp only [Parts.text, List.mem_append] at h
  rcases h with h | h | h
  · exact isVisible_of_isDigit (hp.isDigit_whole c h)
  · unfold Parts.fractionText at h
    split at h
    · simp at h
    · rcases List.mem_cons.1 h with rfl | h
      · decide
      · exact isVisible_of_isDigit (hp.isDigit_fraction c h)
  · cases hexponent : p.exponent with
    | none => simp [hexponent, Parts.exponentText] at h
    | some e =>
        obtain ⟨negative, size⟩ := e
        simp only [hexponent, Parts.exponentText, List.mem_cons] at h
        rcases h with rfl | rfl | h
        · decide
        · cases negative <;> decide
        · exact isVisible_of_isDigit (hp.isDigit_exponent _ hexponent c h)

theorem isVisible_of_mem_sign {negative : Bool} {c : Char}
    (h : c ∈ if negative then ['-'] else []) : IsVisible c := by
  cases negative with
  | false => simp at h
  | true =>
      obtain rfl : c = '-' := by simpa using h
      decide

theorem isVisible_of_mem_intDigits {i : Int} {c : Char} (h : c ∈ intDigits i) : IsVisible c := by
  unfold intDigits at h
  rcases List.mem_append.1 h with h | h
  · split at h
    · obtain rfl : c = '-' := by simpa using h
      decide
    · simp at h
  · exact isVisible_of_isDigit (Decimal.isDigit_of_mem_digits h)

theorem isVisible_of_mem_render {x : Double} (hx : x.IsRounded) {c : Char}
    (h : c ∈ (plainLayout "Infinity").render x) : IsVisible c := by
  cases hx with
  | finite negative hrepresentable hrange =>
      obtain ⟨p, htext, hspells⟩ :=
        Decimal.exists_spells_size (plainLayout "Infinity") hrepresentable hrange
      rw [Decimal.Layout.render, htext] at h
      rcases List.mem_append.1 h with h | h
      · exact isVisible_of_mem_sign h
      · exact isVisible_of_mem_text hspells.toWellFormed h
  | infinite negative =>
      rw [Decimal.Layout.render] at h
      rcases List.mem_append.1 h with h | h
      · exact isVisible_of_mem_sign h
      · exact isVisible_of_mem (by decide : "Infinity".toList.all (fun d => IsVisible d) = true) h

/-! ### Values -/

/-- The blanks between the tokens. -/
def Spacing.Holds (spacing : Spacing) (c : Char) : Prop :=
  ∃ depth, c ∈ spacing.opening depth ∨ c ∈ spacing.between depth ∨ c ∈ spacing.closing depth

section Containers

variable {spacing : Spacing} {depth : Nat} {c : Char}

theorem isVisible_or_blank_of_mem_array {items : List Value}
    (hitems : ∀ v ∈ items, ∀ {depth}, c ∈ v.written spacing depth → IsVisible c ∨ spacing.Holds c)
    (h : c ∈ (Value.arr items).written spacing depth) : IsVisible c ∨ spacing.Holds c := by
  cases items with
  | nil =>
      rw [Value.written] at h
      exact .inl (isVisible_of_mem (by decide) h)
  | cons v rest =>
      simp only [Value.written, writtenItems_eq, List.cons_append, List.mem_cons, List.mem_append,
        List.mem_flatMap, List.not_mem_nil, or_false] at h
      rcases h with rfl | ((((h | h) | ⟨w, hw, rfl | h | h⟩) | h) | rfl)
      · exact .inl (by decide)
      · exact .inr ⟨depth, .inl h⟩
      · exact hitems v (by simp) h
      · exact .inl (by decide)
      · exact .inr ⟨depth, .inr (.inl h)⟩
      · exact hitems w (List.mem_cons_of_mem _ hw) h
      · exact .inr ⟨depth, .inr (.inr h)⟩
      · exact .inl (by decide)

theorem isVisible_or_blank_of_mem_member {m : Str × Value}
    (hvalue : ∀ {depth}, c ∈ m.2.written spacing depth → IsVisible c ∨ spacing.Holds c)
    (h : c ∈ writtenMember spacing depth m) : IsVisible c ∨ spacing.Holds c := by
  simp only [writtenMember, List.mem_append, List.mem_cons] at h
  rcases h with h | rfl | rfl | h
  · exact .inl (ascii_of_mem_writtenString h)
  · exact .inl (by decide)
  · exact .inl (by decide)
  · exact hvalue h

theorem isVisible_or_blank_of_mem_object {members : Members}
    (hmembers : ∀ m ∈ members, ∀ {depth}, c ∈ m.2.written spacing depth →
      IsVisible c ∨ spacing.Holds c)
    (h : c ∈ (Value.obj members).written spacing depth) : IsVisible c ∨ spacing.Holds c := by
  cases members with
  | nil =>
      rw [Value.written] at h
      exact .inl (isVisible_of_mem (by decide) h)
  | cons m rest =>
      have hwritten : (Value.obj (m :: rest)).written spacing depth =
          '{' :: (spacing.opening depth ++ (writtenMember spacing depth m ++
            (writtenMembers spacing depth rest ++ (spacing.closing depth ++ ['}'])))) := by
        simp [Value.written, writtenMember]
      rw [hwritten, writtenMembers_eq] at h
      simp only [List.mem_cons, List.mem_append, List.mem_flatMap, List.not_mem_nil,
        or_false] at h
      rcases h with rfl | h | h | ⟨w, hw, rfl | h | h⟩ | h | rfl
      · exact .inl (by decide)
      · exact .inr ⟨depth, .inl h⟩
      · exact isVisible_or_blank_of_mem_member (hmembers m (by simp)) h
      · exact .inl (by decide)
      · exact .inr ⟨depth, .inr (.inl h)⟩
      · exact isVisible_or_blank_of_mem_member (hmembers w (List.mem_cons_of_mem _ hw)) h
      · exact .inr ⟨depth, .inr (.inr h)⟩
      · exact .inl (by decide)

end Containers

/-- **Only visible characters and the blanks between the tokens are written.** -/
theorem isVisible_or_blank_of_mem_written {v : Value} (hwf : v.WellFormed) {spacing : Spacing}
    {depth : Nat} {c : Char} (h : c ∈ v.written spacing depth) :
    IsVisible c ∨ spacing.Holds c := by
  induction hwf generalizing depth with
  | null =>
      rw [Value.written] at h
      exact .inl (isVisible_of_mem (by decide) h)
  | bool b =>
      cases b with
      | true =>
          rw [Value.written] at h
          exact .inl (isVisible_of_mem (by decide) h)
      | false =>
          rw [Value.written] at h
          exact .inl (isVisible_of_mem (by decide) h)
  | int => exact .inl (isVisible_of_mem_intDigits (by simpa [Value.written] using h))
  | real hx => exact .inl (isVisible_of_mem_render hx (by simpa [Value.written] using h))
  | str => exact .inl (ascii_of_mem_writtenString (by simpa [Value.written] using h))
  | arr _ ih => exact isVisible_or_blank_of_mem_array ih h
  | obj _ _ _ ih => exact isVisible_or_blank_of_mem_object ih h

theorem isVisible_or_newLine_of_mem_written {v : Value} (hwf : v.WellFormed) {depth : Nat}
    {c : Char} (h : c ∈ v.written indented depth) : IsVisible c ∨ c = '\n' := by
  have hnewLine : ∀ {n}, c ∈ newLine n → IsVisible c ∨ c = '\n' := by
    intro n hc
    rcases List.mem_cons.1 hc with rfl | hc
    · exact .inr rfl
    · rw [(List.mem_replicate.1 hc).2]
      exact .inl (by decide)
  rcases isVisible_or_blank_of_mem_written hwf h with h | ⟨_, h | h | h⟩
  · exact .inl h
  · exact hnewLine h
  · exact hnewLine h
  · exact hnewLine h

end BucketAccess.Json
