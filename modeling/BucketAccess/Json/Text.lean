/-
**Strings in a document.**

A string stands between double quotes.  Inside it a backslash starts an escape: a letter for one of
eight common characters, or `u` and four hexadecimal digits for a unit of sixteen bits.  Two units
next to each other may be the halves of one character; a half on its own stays a half.  Control
characters may not stand in a string as they are.

Main definitions:

* `BucketAccess.Json.Piece` — what one element of a string stands for;
* `BucketAccess.Json.piece` — one element of a string;
* `BucketAccess.Json.pieces` — the elements up to the closing quote;
* `BucketAccess.Json.joinPieces` — the points of a string;
* `BucketAccess.Json.stringBody` — the reader of a string after its opening quote.

Main results:

* `BucketAccess.Json.length_lt_of_pieces` — a string uses up text.
-/

import BucketAccess.Json.Reading
import BucketAccess.Text.Str

set_option relaxedAutoImplicit false
set_option autoImplicit false

namespace BucketAccess.Json

open BucketAccess.Text (Half Point Str hexNumber?)

/-! ### One element -/

/-- What one element of a string stands for: a character, or a unit of sixteen bits. -/
inductive Piece where
  | char (c : Char)
  | unit (n : Nat)
  deriving DecidableEq

/-- The characters that a letter after a backslash stands for. -/
def shortEscapes : List (Char × Char) :=
  [('"', '"'), ('\\', '\\'), ('/', '/'), ('b', '\x08'), ('f', '\x0c'), ('n', '\n'), ('r', '\r'),
    ('t', '\t')]

/-- The unit whose four digits come next.  Some text must follow them, since the string has to be
closed. -/
def numericEscape (s : List Char) : Option (Piece × List Char) :=
  match hexNumber? (s.take 4), s.drop 4 with
  | some n, next :: rest => some (.unit n, next :: rest)
  | _, _ => none

/-- One element of a string.  The end of the text inside a string is reported at the opening quote,
where `opening` was left. -/
def piece (opening : List Char) : List Char → Reading Piece
  | [] => mistake .openString opening
  | '\\' :: [] => mistake .openString opening
  | '\\' :: e :: rest =>
      if e = 'u' then
        match numericEscape rest with
        | some found => .ok found
        | none => mistake .brokenNumericEscape (e :: rest)
      else
        match shortEscapes.lookup e with
        | some c => .ok (.char c, rest)
        | none => mistake .unknownEscape ('\\' :: e :: rest)
  | c :: rest =>
      if c.toNat ≤ 0x1F then mistake .controlCharacter (c :: rest) else .ok (.char c, rest)

theorem length_le_of_numericEscape {s rest : List Char} {p : Piece}
    (h : numericEscape s = some (p, rest)) : rest.length ≤ s.length := by
  unfold numericEscape at h
  split at h
  · next hdrop =>
      simp only [Option.some.injEq, Prod.mk.injEq] at h
      rw [← h.2, ← hdrop, List.length_drop]
      omega
  · simp at h

theorem length_lt_of_piece {opening s rest : List Char} {p : Piece}
    (h : piece opening s = .ok (p, rest)) : rest.length < s.length := by
  unfold piece at h
  split at h
  · simp [mistake] at h
  · simp [mistake] at h
  · split at h
    · split at h
      · next hn =>
          simp only [Except.ok.injEq] at h
          have := length_le_of_numericEscape (h ▸ hn)
          simp only [List.length_cons]
          omega
      · simp [mistake] at h
    · split at h
      · simp only [Except.ok.injEq, Prod.mk.injEq] at h
        simp only [← h.2, List.length_cons]
        omega
      · simp [mistake] at h
  · split at h
    · simp [mistake] at h
    · simp only [Except.ok.injEq, Prod.mk.injEq] at h
      simp [← h.2]

/-! ### All elements -/

/-- The elements of a string up to its closing quote. -/
def pieces (opening s : List Char) : Reading (List Piece) :=
  match s with
  | '"' :: rest => .ok ([], rest)
  | s =>
      match _hpiece : piece opening s with
      | .error fault => .error fault
      | .ok (p, rest) => (pieces opening rest).map (p :: ·)
termination_by s.length
decreasing_by exact length_lt_of_piece _hpiece

/-- A string uses up text. -/
theorem length_lt_of_pieces {opening s rest : List Char} {found : List Piece}
    (h : pieces opening s = .ok (found, rest)) : rest.length < s.length := by
  fun_induction pieces opening s generalizing found rest with
  | case1 r =>
      simp only [Except.ok.injEq, Prod.mk.injEq] at h
      simp [h.2]
  | case2 => simp at h
  | case3 s _ p r hpiece ih =>
      obtain ⟨more, hmore, _⟩ := Reading.map_eq_ok_iff.1 h
      exact Nat.lt_trans (ih hmore) (length_lt_of_piece hpiece)

/-! ### Points -/

/-- Whether a unit is the first half of a character. -/
def isHighUnit (n : Nat) : Bool :=
  0xD800 ≤ n && n ≤ 0xDBFF

/-- Whether a unit is the second half of a character. -/
def isLowUnit (n : Nat) : Bool :=
  0xDC00 ≤ n && n ≤ 0xDFFF

/-- The point of a unit on its own: half of a character, or a character. -/
def unitPoint (n : Nat) : Point :=
  if h : 0xD800 ≤ n ∧ n ≤ 0xDFFF then .half ⟨n, h.1, h.2⟩ else .char (Char.ofNat n)

/-- The character of two halves. -/
def pairChar (high low : Nat) : Char :=
  Char.ofNat (0x10000 + (high - 0xD800) * 0x400 + (low - 0xDC00))

/-- The points of the elements of a string. -/
def joinPieces : List Piece → List Point
  | [] => []
  | .char c :: rest => .char c :: joinPieces rest
  | .unit high :: .unit low :: rest =>
      -- the second unit, where it is not used up, may still be the first half of a pair
      if isHighUnit high && isLowUnit low then .char (pairChar high low) :: joinPieces rest
      else unitPoint high :: joinPieces (.unit low :: rest)
  | .unit n :: rest => unitPoint n :: joinPieces rest

/-- The reader of a string after its opening quote. -/
def stringBody : Reader Str where
  run s := (pieces ('"' :: s) s).map fun found => ⟨joinPieces found⟩
  shorter h := by
    obtain ⟨_, hfound, _⟩ := Reading.map_eq_ok_iff.1 h
    exact length_lt_of_pieces hfound

end BucketAccess.Json
