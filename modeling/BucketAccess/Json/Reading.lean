/-
**Taking things off the front of a text.**

A document is read from the left, one character at a time, without going back.  A reader takes
something off the front of a text and always uses up some of it; with this the loop over the
elements of a container needs no other bound than the text itself.

Main definitions:

* `BucketAccess.Json.Reading` — what reading the front of a text gives;
* `BucketAccess.Json.Reader` — a reader and the proof that it uses up text;
* `BucketAccess.Json.skipSpace` — the text after leading blanks;
* `BucketAccess.Json.elements` — the elements of a container up to its closing bracket.

Main results:

* `BucketAccess.Json.length_lt_of_elements` — the loop uses up text, like its reader.
-/

import BucketAccess.Json.Fault

set_option relaxedAutoImplicit false
set_option autoImplicit false

namespace BucketAccess.Json

/-! ### Readers -/

/-- What reading the front of a text gives: a result and the rest of the text, or a fault together
with the number of characters that were left where it was met. -/
abbrev Reading (α : Type) := Except (Fault Nat) (α × List Char)

/-- A mistake in front of the text that is left. -/
def mistake {α : Type} (m : Mistake) (left : List Char) : Reading α :=
  .error (.malformed m left.length)

/-- The result of a reading changed, the rest of the text kept. -/
def Reading.map {α β : Type} (f : α → β) : Reading α → Reading β
  | .ok (a, rest) => .ok (f a, rest)
  | .error fault => .error fault

@[simp] theorem Reading.map_ok {α β : Type} (f : α → β) (a : α) (rest : List Char) :
    Reading.map f (.ok (a, rest)) = .ok (f a, rest) := rfl

@[simp] theorem Reading.map_error {α β : Type} (f : α → β) (fault : Fault Nat) :
    Reading.map f (.error fault) = .error fault := rfl

theorem Reading.map_eq_ok_iff {α β : Type} {f : α → β} {x : Reading α} {b : β}
    {rest : List Char} : x.map f = .ok (b, rest) ↔ ∃ a, x = .ok (a, rest) ∧ f a = b := by
  rcases x with fault | ⟨a, r⟩
  · simp
  · simp only [map_ok, Except.ok.injEq, Prod.mk.injEq]
    constructor
    · rintro ⟨hf, rfl⟩
      exact ⟨a, ⟨rfl, rfl⟩, hf⟩
    · rintro ⟨_, ⟨rfl, rfl⟩, hf⟩
      exact ⟨hf, rfl⟩

/-- A reader: a way of taking something off the front of a text that always uses up some of it. -/
structure Reader (α : Type) where
  /-- Takes something off the front of a text. -/
  run : List Char → Reading α
  /-- Some of the text is used up. -/
  shorter : ∀ {s : List Char} {a : α} {rest : List Char},
    run s = .ok (a, rest) → rest.length < s.length

/-! ### Blanks -/

/-- The characters that may stand between tokens: space, tab, line feed, carriage return. -/
def isSpace (c : Char) : Bool :=
  c == ' ' || c == '\t' || c == '\n' || c == '\r'

/-- The text after leading blanks. -/
def skipSpace (s : List Char) : List Char :=
  s.dropWhile isSpace

theorem length_skipSpace_le (s : List Char) : (skipSpace s).length ≤ s.length :=
  (List.dropWhile_suffix isSpace).length_le

/-! ### Elements -/

/-- The elements of a container, of which there is at least one, up to the closing bracket, with a
comma between neighbours. -/
def elements {α : Type} (element : Reader α) (close : Char) (s : List Char) :
    Reading (List α) :=
  match _hrun : element.run s with
  | .error fault => .error fault
  | .ok (a, after) =>
      match _hafter : skipSpace after with
      | [] => mistake .noComma []
      | c :: rest =>
          if c = close then .ok ([a], rest)
          -- an element has to follow the comma
          else if c = ',' then (elements element close (skipSpace rest)).map (a :: ·)
          else mistake .noComma (c :: rest)
termination_by s.length
decreasing_by
  have h₁ := element.shorter _hrun
  have h₂ := length_skipSpace_le after
  have h₃ := length_skipSpace_le rest
  rw [_hafter, List.length_cons] at h₂
  omega

/-- The loop uses up text. -/
theorem length_lt_of_elements {α : Type} {element : Reader α} {close : Char} {s rest : List Char}
    {found : List α} (h : elements element close s = .ok (found, rest)) :
    rest.length < s.length := by
  fun_induction elements element close s generalizing found rest with
  | case1 => simp at h
  | case2 => simp [mistake] at h
  | case3 s a after hrun r hafter =>
      have h₁ := element.shorter hrun
      have h₂ := length_skipSpace_le after
      rw [hafter, List.length_cons] at h₂
      simp only [Except.ok.injEq, Prod.mk.injEq] at h
      rw [← h.2]
      omega
  | case4 s a after hrun r hafter _ ih =>
      obtain ⟨more, hmore, _⟩ := Reading.map_eq_ok_iff.1 h
      have h₁ := element.shorter hrun
      have h₂ := length_skipSpace_le after
      have h₃ := length_skipSpace_le r
      have h₄ := ih hmore
      rw [hafter, List.length_cons] at h₂
      omega
  | case5 => simp [mistake] at h

end BucketAccess.Json
