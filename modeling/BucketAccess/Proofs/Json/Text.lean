/-
**Strings read back.**

A character of a string is written as itself, as a letter behind a backslash, or as one or two units
of sixteen bits.  Each of these is read as pieces that stand for the character again, whatever
follows: a unit that is written for a character on its own is never the half of another one.  A half
on its own reads back as well, unless the half behind it makes a character of the two; and in what
is read no two halves are left that would.

Main definitions:

* `BucketAccess.Json.piecesOf`, `BucketAccess.Json.pointPieces` — the pieces that a character or a
  half is written as;
* `BucketAccess.Json.IsJoined` — no two halves in a string make a character.

Main results:

* `BucketAccess.Json.pieces_escapedChar` — a character is read as its pieces;
* `BucketAccess.Json.joinPieces_piecesOf`, `BucketAccess.Json.joinPieces_half` — and the pieces make
  the character, or the half;
* `BucketAccess.Json.run_stringBody_written` — **strings read back**;
* `BucketAccess.Json.isJoined_of_stringBody` — strings that are read are joined.
-/

import BucketAccess.Json.Text
import BucketAccess.Json.Writer
import Mathlib.Data.List.Chain

set_option relaxedAutoImplicit false
set_option autoImplicit false

namespace BucketAccess.Json

open BucketAccess.Text (Half Point Str hex hexNumber?_hex length_hex)

/-! ### Reading pieces -/

theorem pieces_quote (opening rest : List Char) :
    pieces opening ('"' :: rest) = .ok ([], rest) := by
  rw [pieces]

theorem pieces_of_piece {opening s rest : List Char} {p : Piece} (hquote : s.head? ≠ some '"')
    (hpiece : piece opening s = .ok (p, rest)) :
    pieces opening s = (pieces opening rest).map (p :: ·) := by
  rw [pieces]
  · split
    · next fault hfault => rw [hpiece] at hfault; cases hfault
    · next found left hfound =>
        rw [hpiece] at hfound
        obtain ⟨rfl, rfl⟩ := Prod.mk.inj (Except.ok.inj hfound)
        rfl
  · rintro more rfl
    exact hquote rfl

/-! ### One character -/

/-- A character is no surrogate, and is not beyond the last one. -/
theorem toNat_bounds (c : Char) : (c.toNat < 0xD800 ∨ 0xDFFF < c.toNat) ∧ c.toNat < 0x110000 := by
  have hvalid := c.valid
  simp only [UInt32.isValidChar, Nat.isValidChar] at hvalid
  change (c.val.toNat < _ ∨ _ < c.val.toNat) ∧ c.val.toNat < _
  omega

/-- The pieces that a character is written as. -/
def piecesOf (c : Char) : List Piece :=
  match writtenEscapes.lookup c with
  | some _ => [.char c]
  | none =>
      if 0x20 ≤ c.toNat ∧ c.toNat ≤ 0x7E then [.char c]
      else if c.toNat ≤ 0xFFFF then [.unit c.toNat]
      else
        [.unit (0xD800 + (c.toNat - 0x10000) / 0x400),
          .unit (0xDC00 + (c.toNat - 0x10000) % 0x400)]

/-- A unit reads back, if the text goes on behind it. -/
theorem piece_writtenUnit (opening : List Char) {n : Nat} (h : n < 0x10000) {rest : List Char}
    (hrest : rest ≠ []) : piece opening (writtenUnit n ++ rest) = .ok (.unit n, rest) := by
  have hnumber : BucketAccess.Text.hexNumber? (hex 4 n) = some n := hexNumber?_hex h
  have htake : (hex 4 n ++ rest).take 4 = hex 4 n := List.take_left' (length_hex 4 n)
  have hdrop : (hex 4 n ++ rest).drop 4 = rest := List.drop_left' (length_hex 4 n)
  have hescape : numericEscape (hex 4 n ++ rest) = some (.unit n, rest) := by
    obtain ⟨c, more, rfl⟩ := List.exists_cons_of_ne_nil hrest
    rw [numericEscape, htake, hdrop, hnumber]
  simp [writtenUnit, piece, hescape]

theorem head_writtenUnit (n : Nat) (rest : List Char) :
    (writtenUnit n ++ rest).head? ≠ some '"' := by
  simp [writtenUnit]

theorem pieces_writtenUnit (opening : List Char) {n : Nat} (h : n < 0x10000) {rest : List Char}
    (hrest : rest ≠ []) : pieces opening (writtenUnit n ++ rest) =
      (pieces opening rest).map (.unit n :: ·) :=
  pieces_of_piece (head_writtenUnit n rest) (piece_writtenUnit opening h hrest)

/-- A letter behind a backslash reads back. -/
theorem shortEscapes_of_writtenEscapes {c letter : Char}
    (h : writtenEscapes.lookup c = some letter) :
    letter ≠ 'u' ∧ shortEscapes.lookup letter = some c := by
  have hall : ∀ p ∈ writtenEscapes, p.2 ≠ 'u' ∧ shortEscapes.lookup p.2 = some p.1 := by decide
  obtain ⟨before, behind, heq, -⟩ := List.lookup_eq_some_iff.1 h
  exact hall (c, letter) (by simp [heq])

/-- A character is read as its pieces, if the text goes on behind it. -/
theorem pieces_escapedChar (opening : List Char) (c : Char) {rest : List Char} (hrest : rest ≠ []) :
    pieces opening (escapedChar c ++ rest) = (pieces opening rest).map (piecesOf c ++ ·) := by
  unfold escapedChar piecesOf
  cases hlookup : writtenEscapes.lookup c with
  | some letter =>
      obtain ⟨hletter, hshort⟩ := shortEscapes_of_writtenEscapes hlookup
      refine pieces_of_piece (by simp) ?_
      simp [piece, hletter, hshort]
  | none =>
      have hplain : c ≠ '"' ∧ c ≠ '\\' := by
        constructor <;> rintro rfl <;> exact absurd hlookup (by decide)
      simp only
      split
      · next hvisible =>
          refine pieces_of_piece (by simpa using hplain.1) ?_
          rw [List.singleton_append, piece, if_neg (by omega)]
          · exact fun hslash => absurd hslash hplain.2
          · exact fun _ _ hslash => absurd hslash hplain.2
      · split
        · next hunit => exact pieces_writtenUnit opening (by omega) hrest
        · next hlarge =>
            have hc := toNat_bounds c
            rw [List.append_assoc, pieces_writtenUnit opening (by omega) (by simp [writtenUnit]),
              pieces_writtenUnit opening (by omega) hrest]
            cases pieces opening rest with
            | error fault => rfl
            | ok found => rfl

theorem piecesOf_ne_nil (c : Char) : piecesOf c ≠ [] := by
  unfold piecesOf
  split
  · simp
  · split
    · simp
    · split <;> simp

/-- The pieces of a character make it again, whatever follows. -/
theorem joinPieces_piecesOf (c : Char) (found : List Piece) :
    joinPieces (piecesOf c ++ found) = .char c :: joinPieces found := by
  have hbounds := toNat_bounds c
  unfold piecesOf
  split
  · rfl
  · split
    · rfl
    · split
      · next hunit =>
          have hhigh : isHighUnit c.toNat = false := by
            simp [isHighUnit]
            omega
          have hpoint : unitPoint c.toNat = .char c := by
            rw [unitPoint, dif_neg (by omega), Char.ofNat_toNat]
          match found with
          | [] => simp [joinPieces, hpoint]
          | .char d :: more => simp [joinPieces, hpoint]
          | .unit n :: more => simp [joinPieces, hpoint, hhigh]
      · next hlarge =>
          generalize hoffset : c.toNat - 0x10000 = offset
          have hhigh : isHighUnit (0xD800 + offset / 0x400) = true := by
            simp only [isHighUnit, Bool.and_eq_true, decide_eq_true_eq]
            omega
          have hlow : isLowUnit (0xDC00 + offset % 0x400) = true := by
            simp only [isLowUnit, Bool.and_eq_true, decide_eq_true_eq]
            omega
          have hpair : pairChar (0xD800 + offset / 0x400) (0xDC00 + offset % 0x400) = c := by
            have hnumber : 0x10000 + (0xD800 + offset / 0x400 - 0xD800) * 0x400 +
                (0xDC00 + offset % 0x400 - 0xDC00) = c.toNat := by omega
            rw [pairChar, hnumber, Char.ofNat_toNat]
          simp [joinPieces, hhigh, hlow, hpair]

/-! ### Halves -/

/-- Whether two points next to each other would be read as one character. -/
def joins : Point → Point → Bool
  | .half first, .half second => isHighUnit first.unit && isLowUnit second.unit
  | _, _ => false

/-- No two halves next to each other make a character, as it is in every string that is read. -/
def IsJoined (s : Str) : Prop :=
  s.toList.IsChain fun p q => joins p q = false

/-- Texts have no halves. -/
theorem isJoined_coe (text : String) : IsJoined text := by
  rw [IsJoined, Str.toList_coe]
  induction text.toList with
  | nil => exact .nil
  | cons c rest ih =>
      cases rest with
      | nil => exact .singleton _
      | cons d more => exact .cons_cons rfl ih

theorem unitPoint_half (h : Half) : unitPoint h.unit = .half h :=
  dif_pos ⟨h.lower, h.upper⟩

/-- The pieces that a point is written as. -/
def pointPieces : Point → List Piece
  | .char c => piecesOf c
  | .half h => [.unit h.unit]

/-- No character is written with a second half in front. -/
theorem isLowUnit_of_piecesOf {c : Char} {n : Nat} {more : List Piece}
    (h : piecesOf c = .unit n :: more) : isLowUnit n = false := by
  have hbounds := toNat_bounds c
  unfold piecesOf at h
  simp only [isLowUnit, Bool.and_eq_false_iff, decide_eq_false_iff_not]
  split at h
  · simp at h
  · split at h
    · simp at h
    · split at h
      · obtain ⟨rfl, -⟩ : c.toNat = n ∧ [] = more := by simpa using h
        omega
      · obtain ⟨rfl, -⟩ : 0xD800 + (c.toNat - 0x10000) / 0x400 = n ∧ _ = more := by simpa using h
        omega

/-- The pieces of half a character make it again, if it is not joined to what follows. -/
theorem joinPieces_half (h : Half) {rest : List Point}
    (hjoined : ∀ p ∈ rest.head?, joins (.half h) p = false) :
    joinPieces (.unit h.unit :: rest.flatMap pointPieces) =
      .half h :: joinPieces (rest.flatMap pointPieces) := by
  cases hpieces : rest.flatMap pointPieces with
  | nil => simp [joinPieces, unitPoint_half]
  | cons p more =>
      cases p with
      | char d => simp [joinPieces, unitPoint_half]
      | unit n =>
          have happart : (isHighUnit h.unit && isLowUnit n) = false := by
            cases rest with
            | nil => simp at hpieces
            | cons q others =>
                cases q with
                | half g =>
                    obtain ⟨rfl, -⟩ : g.unit = n ∧ _ = more := by
                      simpa [pointPieces] using hpieces
                    exact hjoined _ rfl
                | char c =>
                    obtain ⟨front, hfront⟩ : ∃ front, piecesOf c = .unit n :: front := by
                      rw [List.flatMap_cons, pointPieces] at hpieces
                      cases hc : piecesOf c with
                      | nil => exact absurd hc (piecesOf_ne_nil c)
                      | cons q front =>
                          rw [hc, List.cons_append, List.cons.injEq] at hpieces
                          exact ⟨front, by rw [hpieces.1]⟩
                    rw [isLowUnit_of_piecesOf hfront, Bool.and_false]
          simp [joinPieces, happart, unitPoint_half]

theorem pieces_escapedPoint (opening : List Char) (p : Point) {rest : List Char}
    (hrest : rest ≠ []) :
    pieces opening (escapedPoint p ++ rest) = (pieces opening rest).map (pointPieces p ++ ·) := by
  cases p with
  | char c => exact pieces_escapedChar opening c hrest
  | half h => exact pieces_writtenUnit opening (Nat.lt_of_le_of_lt h.upper (by decide)) hrest

/-- **Strings read back**, unless halves in them make a character. -/
theorem run_stringBody_written {s : Str} (hs : IsJoined s) (rest : List Char) :
    stringBody.run (s.toList.flatMap escapedPoint ++ '"' :: rest) = .ok (s, rest) := by
  have hpieces : ∀ opening, ∀ points : List Point,
      pieces opening (points.flatMap escapedPoint ++ '"' :: rest) =
        .ok (points.flatMap pointPieces, rest) := by
    intro opening points
    induction points with
    | nil => exact pieces_quote opening rest
    | cons p more ih =>
        rw [List.flatMap_cons, List.append_assoc, pieces_escapedPoint opening p (by simp), ih]
        rfl
  have hjoin : ∀ points : List Point, points.IsChain (fun p q => joins p q = false) →
      joinPieces (points.flatMap pointPieces) = points := by
    intro points hpoints
    induction points with
    | nil => rfl
    | cons p more ih =>
        have hmore := ih hpoints.tail
        cases p with
        | char c => rw [List.flatMap_cons, pointPieces, joinPieces_piecesOf, hmore]
        | half h =>
            have hhead : ∀ q ∈ more.head?, joins (.half h) q = false := hpoints.rel_head?
            rw [List.flatMap_cons, pointPieces, List.singleton_append, joinPieces_half h hhead,
              hmore]
  simp only [stringBody, hpieces, Reading.map_ok, hjoin s.toList hs]

/-- Units that are not the halves of one character stay apart. -/
theorem joins_unitPoint {first second : Nat}
    (h : (isHighUnit first && isLowUnit second) = false) :
    joins (unitPoint first) (unitPoint second) = false := by
  unfold unitPoint
  split
  · split
    · exact h
    · rfl
  · rfl

theorem head_joinPieces_unit (n : Nat) (rest : List Piece) :
    (∃ c, (joinPieces (.unit n :: rest)).head? = some (.char c)) ∨
      (joinPieces (.unit n :: rest)).head? = some (unitPoint n) := by
  cases rest with
  | nil => exact .inr rfl
  | cons p more =>
      cases p with
      | char d => exact .inr rfl
      | unit low =>
          rw [joinPieces]
          split
          · exact .inl ⟨_, rfl⟩
          · exact .inr rfl

/-- What is read is joined. -/
theorem isJoined_joinPieces (found : List Piece) : IsJoined ⟨joinPieces found⟩ := by
  change (joinPieces found).IsChain _
  fun_induction joinPieces found with
  | case1 => exact .nil
  | case2 c rest ih => exact List.isChain_cons.2 ⟨fun _ _ => rfl, ih⟩
  | case3 high low rest _ ih => exact List.isChain_cons.2 ⟨fun _ _ => rfl, ih⟩
  | case4 high low rest happart ih =>
      refine List.isChain_cons.2 ⟨fun p hp => ?_, ih⟩
      rw [Option.mem_def] at hp
      rcases head_joinPieces_unit low rest with ⟨c, hc⟩ | hpoint
      · obtain rfl := Option.some.inj (hp.symm.trans hc)
        cases unitPoint high <;> rfl
      · obtain rfl := Option.some.inj (hp.symm.trans hpoint)
        exact joins_unitPoint (by simpa using happart)
  | case5 n rest hrest ih =>
      refine List.isChain_cons.2 ⟨fun p hp => ?_, ih⟩
      cases rest with
      | nil => simp [joinPieces] at hp
      | cons q more =>
          cases q with
          | unit low => exact absurd rfl (hrest low more)
          | char c =>
              obtain rfl : .char c = p := by simpa [joinPieces] using hp
              cases unitPoint n <;> rfl

/-- Every string that is read is joined. -/
theorem isJoined_of_stringBody {s rest : List Char} {text : Str}
    (h : stringBody.run s = .ok (text, rest)) : IsJoined text := by
  obtain ⟨found, -, rfl⟩ := Reading.map_eq_ok_iff.1 h
  exact isJoined_joinPieces found

end BucketAccess.Json
