/-
**Paths written out and read again.**

The text of a path leads to the same path again, provided that its names could have been read from
a text at all.  A path can also be written so that it does not start with a hyphen, which matters
where it stands among the words of a command line.

Main definitions:

* `BucketAccess.Files.Path.Proper` — the paths whose names can be read from a text.

Main results:

* `BucketAccess.Files.Path.ofText_text` — **the text of a path leads to the path**;
* `BucketAccess.Files.Path.exists_text_not_hyphen` — and so does a text without a hyphen in front.
-/

import BucketAccess.Files.Path
import BucketAccess.Proofs.Text.Fields

set_option relaxedAutoImplicit false
set_option autoImplicit false

namespace BucketAccess.Files.Path

open BucketAccess.Text

/-- The names of a path could have been read from a text. -/
def Proper (p : Path) : Prop :=
  ∀ name ∈ p.names, name ≠ [] ∧ name ≠ self ∧ '/' ∉ name

theorem proper_ofText (s : List Char) : (ofText s).Proper :=
  fun _ hname => names_ofText hname

theorem Proper.join {p q : Path} (hp : p.Proper) (hq : q.Proper) : (p.join q).Proper := by
  unfold Path.join
  split
  · intro name hname
    rcases List.mem_append.1 hname with hname | hname
    · exact hp name hname
    · exact hq name hname
  · exact hq

/-! ### Names -/

/-- The names that stand between the slashes of a text. -/
theorem namesIn_joinWith {names : List (List Char)}
    (h : ∀ name ∈ names, name ≠ [] ∧ name ≠ self ∧ '/' ∉ name) :
    (splitOn '/' (joinWith '/' names)).filter (fun name => name ≠ [] ∧ name ≠ self) = names := by
  cases names with
  | nil => rfl
  | cons name rest =>
      rw [splitOn_joinWith (by simp) fun other hother => (h other hother).2.2]
      refine List.filter_eq_self.2 ?_
      intro other hother
      simpa using ⟨(h other hother).1, (h other hother).2.1⟩

/-- Names are not put together to a text with a slash in front. -/
theorem head_joinWith {names : List (List Char)}
    (h : ∀ name ∈ names, name ≠ [] ∧ name ≠ self ∧ '/' ∉ name) :
    (joinWith '/' names).head? ≠ some '/' := by
  cases names with
  | nil => simp [joinWith]
  | cons name rest =>
      obtain ⟨hne, -, hslash⟩ := h name (by simp)
      obtain ⟨c, more, rfl⟩ := List.exists_cons_of_ne_nil hne
      have hc : c ≠ '/' := by
        rintro rfl
        exact hslash (by simp)
      cases rest <;> simpa [joinWith] using hc

theorem anchorOf_of_head {s : List Char} (h : s.head? ≠ some '/') (anchor : Anchor) :
    anchorOf (anchor.text ++ s) = anchor := by
  cases s with
  | nil => cases anchor <;> rfl
  | cons c more =>
      have hc : c ≠ '/' := by simpa using h
      cases anchor <;> simp [Anchor.text, anchorOf, hc]

/-! ### Texts -/

/-- **The text of a path leads to the path.** -/
theorem ofText_text {p : Path} (h : p.Proper) : ofText p.text = p := by
  obtain ⟨anchor, names⟩ := p
  have hnames := namesIn_joinWith h
  have hanchor := anchorOf_of_head (head_joinWith h) anchor
  unfold text
  split
  · next hempty =>
      obtain ⟨rfl, rfl⟩ : anchor = .here ∧ names = [] := hempty
      decide
  · rw [ofText, hanchor]
    refine congrArg (Path.mk anchor) ?_
    cases anchor with
    | here => exact hnames
    | root => simpa [Anchor.text, splitOn] using hnames
    | doubleRoot => simpa [Anchor.text, splitOn] using hnames

/-- A path from the current directory may be written with a period in front. -/
theorem ofText_self_slash {s : List Char} (h : anchorOf s = .here) :
    ofText ('.' :: '/' :: s) = ofText s := by
  have hsplit : splitOn '/' ('.' :: '/' :: s) = self :: splitOn '/' s := by
    simp [splitOn, self]
  rw [ofText, ofText, h, hsplit]
  simp [anchorOf]

/-- Every path has a text that does not start with a hyphen. -/
theorem exists_text_not_hyphen {p : Path} (h : p.Proper) :
    ∃ s : List Char, ofText s = p ∧ s.head? ≠ some '-' := by
  have htext := ofText_text h
  cases hanchor : p.anchor with
  | here =>
      have hhere : anchorOf p.text = .here := by
        have hsame := congrArg Path.anchor htext
        rwa [hanchor] at hsame
      refine ⟨'.' :: '/' :: p.text, ?_, by simp⟩
      rw [ofText_self_slash hhere, htext]
  | root => exact ⟨p.text, htext, by simp [text, hanchor, Anchor.text]⟩
  | doubleRoot => exact ⟨p.text, htext, by simp [text, hanchor, Anchor.text]⟩

end BucketAccess.Files.Path
