/-
**Which bytes are text.**

Reading bytes undoes writing text: what has been written is read back, and what can be read is
exactly what would be written for the text that was found.  So no byte is dropped and no two rows of
bytes hold the same text.  Inside a character the invariant is that the bytes read so far are the
first bytes of every character that may still follow.

Main definitions:

* `BucketAccess.Text.Utf8.continuation` — the last bytes of a character;
* `BucketAccess.Text.Utf8.Pending.Admits` — the numbers that a character which is not finished may
  still have;
* `BucketAccess.Text.Utf8.Pending.Begins` — **the invariant**.

Main results:

* `BucketAccess.Text.Utf8.encodeChar_eq` — the bytes of a character are the ones in a string;
* `BucketAccess.Text.Utf8.Pending.Begins.next` — one byte keeps the invariant;
* `BucketAccess.Text.Utf8.decode_eq_ok_iff` — **which bytes are text**.
-/

import BucketAccess.Text.Utf8
import Mathlib.Tactic.Ring

set_option relaxedAutoImplicit false
set_option autoImplicit false

namespace BucketAccess.Text.Utf8

/-! ### The bytes of a character -/

/-- The last so many bytes of the character with a number. -/
def continuation (n : Nat) : Nat → List UInt8
  | 0 => []
  | k + 1 => UInt8.ofNat (0x80 + n / 64 ^ k % 64) :: continuation n k

theorem toNat_ofNat {n : Nat} (h : n.isValidChar) : (Char.ofNat n).toNat = n := by
  rw [Char.ofNat, dif_pos h]
  rfl

theorem encodeChar_one {n : Nat} (h : n ≤ 0x7F) : encodeChar (Char.ofNat n) = [UInt8.ofNat n] := by
  rw [encodeChar, toNat_ofNat (.inl (by omega)), if_pos h]

theorem encodeChar_two {n : Nat} (hlow : 0x7F < n) (hhigh : n ≤ 0x7FF) :
    encodeChar (Char.ofNat n) = UInt8.ofNat (0xC0 + n / 64) :: continuation n 1 := by
  rw [encodeChar, toNat_ofNat (.inl (by omega)), if_neg (by omega), if_pos hhigh]
  simp [continuation]

theorem encodeChar_three {n : Nat} (hvalid : n.isValidChar) (hlow : 0x7FF < n)
    (hhigh : n ≤ 0xFFFF) :
    encodeChar (Char.ofNat n) = UInt8.ofNat (0xE0 + n / 4096) :: continuation n 2 := by
  rw [encodeChar, toNat_ofNat hvalid, if_neg (by omega), if_neg (by omega), if_pos hhigh]
  simp [continuation]

theorem encodeChar_four {n : Nat} (hvalid : n.isValidChar) (hlow : 0xFFFF < n) :
    encodeChar (Char.ofNat n) = UInt8.ofNat (0xF0 + n / 262144) :: continuation n 3 := by
  rw [encodeChar, toNat_ofNat hvalid, if_neg (by omega), if_neg (by omega), if_neg (by omega)]
  simp [continuation]

/-- The bytes of a character are the ones that strings have in memory. -/
theorem encodeChar_eq (c : Char) : encodeChar c = String.utf8EncodeChar c := by
  have hnumber : c.val.toNat = c.toNat := rfl
  have hvalid : c.toNat.isValidChar := c.valid
  unfold Nat.isValidChar at hvalid
  simp only [encodeChar, String.utf8EncodeChar, hnumber]
  split_ifs with hone htwo hthree
  · rfl
  · rw [Nat.mod_eq_of_lt (show c.toNat / 64 < 32 by omega), Nat.add_comm, Nat.add_comm 0x80]
  · rw [Nat.mod_eq_of_lt (show c.toNat / 4096 < 16 by omega), Nat.add_comm, Nat.add_comm 0x80,
      Nat.add_comm 0x80]
  · rw [Nat.mod_eq_of_lt (show c.toNat / 262144 < 8 by omega), Nat.add_comm, Nat.add_comm 0x80,
      Nat.add_comm 0x80, Nat.add_comm 0x80]

/-! ### Characters that are not finished -/

namespace Pending

/-- A character that is not finished may still have a certain number: it starts as the number does,
and the next byte is one that may come. -/
structure Admits (p : Pending) (n : Nat) : Prop where
  value : n / 64 ^ (p.owed + 1) = p.value
  low : p.low ≤ 0x80 + n / 64 ^ p.owed % 64
  high : 0x80 + n / 64 ^ p.owed % 64 ≤ p.high

/-- **The bytes read so far are the first bytes of every character that may still follow.** -/
structure Begins (p : Pending) : Prop where
  low : 0x80 ≤ p.low
  high : p.high ≤ 0xBF
  valid : ∀ {n}, p.Admits n → n.isValidChar
  bytes : ∀ {n}, p.Admits n → encodeChar (Char.ofNat n) = p.bytes ++ continuation n (p.owed + 1)

variable {p q : Pending} {b : UInt8} {n : Nat}

/-- A byte that continues a character, with no more owed behind it. -/
theorem next?_eq_done_iff {c : Char} : p.next? b = some (.done c) ↔
    (p.low ≤ b.toNat ∧ b.toNat ≤ p.high) ∧ p.owed = 0 ∧
      c = Char.ofNat (64 * p.value + (b.toNat - 0x80)) := by
  simp only [next?]
  split
  · next hrange => cases p.owed <;> simp [hrange, eq_comm]
  · next hrange => simp [hrange]

/-- A byte that continues a character, with more owed behind it. -/
theorem next?_eq_pending_iff : p.next? b = some (.pending q) ↔
    (p.low ≤ b.toNat ∧ b.toNat ≤ p.high) ∧ ∃ owed, p.owed = owed + 1 ∧
      q = ⟨p.bytes ++ [b], 64 * p.value + (b.toNat - 0x80), owed, 0x80, 0xBF⟩ := by
  simp only [next?]
  split
  · next hrange => cases p.owed <;> simp [hrange, eq_comm]
  · next hrange => simp [hrange]

/-- The last byte of a character finishes it. -/
theorem Begins.done (hp : p.Begins) {c : Char} (h : p.next? b = some (.done c)) :
    encodeChar c = p.bytes ++ [b] := by
  obtain ⟨hrange, howed, hc⟩ := next?_eq_done_iff.1 h
  have hlow := hp.low
  have hhigh := hp.high
  have hadmits : p.Admits (64 * p.value + (b.toNat - 0x80)) := by
    refine ⟨?_, ?_, ?_⟩ <;> simp only [howed, Nat.pow_zero, Nat.div_one] <;> omega
  have hbyte : 0x80 + (64 * p.value + (b.toNat - 0x80)) % 64 = b.toNat := by omega
  rw [hc, hp.bytes hadmits, howed, continuation, continuation, Nat.pow_zero, Nat.div_one, hbyte,
    UInt8.ofNat_toNat]

/-- **Another byte keeps the invariant.** -/
theorem Begins.next (hp : p.Begins) (h : p.next? b = some (.pending q)) : q.Begins := by
  obtain ⟨hrange, owed, howed, rfl⟩ := next?_eq_pending_iff.1 h
  have hlow := hp.low
  have hhigh := hp.high
  -- what may still follow is what could follow before, with this byte next
  have hbefore : ∀ {n}, Admits ⟨p.bytes ++ [b], 64 * p.value + (b.toNat - 0x80), owed,
      0x80, 0xBF⟩ n → p.Admits n ∧ 0x80 + n / 64 ^ (owed + 1) % 64 = b.toNat := by
    intro n hn
    have hvalue : n / 64 ^ (owed + 1) = 64 * p.value + (b.toNat - 0x80) := hn.value
    have hfront : n / 64 ^ (owed + 1 + 1) = n / 64 ^ (owed + 1) / 64 := by
      rw [Nat.div_div_eq_div_mul, ← Nat.pow_succ]
    refine ⟨⟨?_, ?_, ?_⟩, ?_⟩ <;> simp only [howed, hfront, hvalue] <;> omega
  refine ⟨Nat.le_refl _, Nat.le_refl _, fun hn => hp.valid (hbefore hn).1, ?_⟩
  intro n hn
  obtain ⟨hadmits, hbyte⟩ := hbefore hn
  rw [hp.bytes hadmits, howed, continuation, hbyte]
  simp

/-! ### Lead bytes -/

section Leads

variable {value low high : Nat}

/-- Two bytes.  The lead bytes with a value below two would start overlong forms. -/
theorem begins_two (hb : b.toNat = 0xC0 + value) (hlong : 2 ≤ value) (hvalue : value ≤ 0x1F) :
    Begins ⟨[b], value, 0, 0x80, 0xBF⟩ := by
  have hrange : ∀ {n}, Admits ⟨[b], value, 0, 0x80, 0xBF⟩ n →
      n / 64 = value ∧ 0x7F < n ∧ n ≤ 0x7FF := by
    intro n hn
    have hfront : n / 64 = value := by simpa using hn.value
    omega
  refine ⟨Nat.le_refl _, Nat.le_refl _, fun hn => .inl ?_, fun hn => ?_⟩
  · have := hrange hn
    omega
  · obtain ⟨hfront, hmin, hmax⟩ := hrange hn
    rw [encodeChar_two hmin hmax, hfront, ← hb, UInt8.ofNat_toNat]
    rfl

/-- Three bytes.  The range of the second byte keeps out overlong forms and surrogates. -/
theorem begins_three (hb : b.toNat = 0xE0 + value) (hvalue : value ≤ 0xF) (hlow : 0x80 ≤ low)
    (hhigh : high ≤ 0xBF) (hlong : value = 0 → 0xA0 ≤ low)
    (hsurrogate : value = 0xD → high ≤ 0x9F) : Begins ⟨[b], value, 1, low, high⟩ := by
  have hrange : ∀ {n}, Admits ⟨[b], value, 1, low, high⟩ n →
      n / 4096 = value ∧ n.isValidChar ∧ 0x7FF < n ∧ n ≤ 0xFFFF := by
    intro n hn
    have hfront : n / 4096 = value := by simpa using hn.value
    have hmin : low ≤ 0x80 + n / 64 % 64 := by simpa using hn.low
    have hmax : 0x80 + n / 64 % 64 ≤ high := by simpa using hn.high
    unfold Nat.isValidChar
    omega
  refine ⟨hlow, hhigh, fun hn => (hrange hn).2.1, fun hn => ?_⟩
  obtain ⟨hfront, hvalid, hmin, hmax⟩ := hrange hn
  rw [encodeChar_three hvalid hmin hmax, hfront, ← hb, UInt8.ofNat_toNat]
  rfl

/-- Four bytes.  The range of the second byte keeps out overlong forms and numbers beyond the last
character. -/
theorem begins_four (hb : b.toNat = 0xF0 + value) (hvalue : value ≤ 4) (hlow : 0x80 ≤ low)
    (hhigh : high ≤ 0xBF) (hlong : value = 0 → 0x90 ≤ low) (hlast : value = 4 → high ≤ 0x8F) :
    Begins ⟨[b], value, 2, low, high⟩ := by
  have hrange : ∀ {n}, Admits ⟨[b], value, 2, low, high⟩ n →
      n / 262144 = value ∧ n.isValidChar ∧ 0xFFFF < n := by
    intro n hn
    have hfront : n / 262144 = value := by simpa using hn.value
    have hmin : low ≤ 0x80 + n / 4096 % 64 := by simpa using hn.low
    have hmax : 0x80 + n / 4096 % 64 ≤ high := by simpa using hn.high
    unfold Nat.isValidChar
    omega
  refine ⟨hlow, hhigh, fun hn => (hrange hn).2.1, fun hn => ?_⟩
  obtain ⟨hfront, hvalid, hmin⟩ := hrange hn
  rw [encodeChar_four hvalid hmin, hfront, ← hb, UInt8.ofNat_toNat]
  rfl

end Leads

end Pending

/-- A byte below 128 is a character of its own. -/
theorem encodeChar_of_start {b : UInt8} {c : Char} (h : start? b = some (.done c)) :
    encodeChar c = [b] := by
  simp only [start?] at h
  split_ifs at h with hone <;> simp at h
  rw [← h, encodeChar_one hone, UInt8.ofNat_toNat]

/-- **The lead byte of a character brings the invariant about.** -/
theorem begins_of_start {b : UInt8} {p : Pending} (h : start? b = some (.pending p)) :
    p.bytes = [b] ∧ p.Begins := by
  simp only [start?] at h
  split_ifs at h <;> simp at h <;> subst h <;> refine ⟨rfl, ?_⟩
  -- of three and of four bytes the lead bytes with a range of their own come first
  · exact Pending.begins_two (by omega) (by omega) (by omega)
  · exact Pending.begins_three (by omega) (by omega) (by omega) (by omega) (by omega) (by omega)
  · exact Pending.begins_three (by omega) (by omega) (by omega) (by omega) (by omega) (by omega)
  · exact Pending.begins_three (by omega) (by omega) (by omega) (by omega) (by omega) (by omega)
  · exact Pending.begins_four (by omega) (by omega) (by omega) (by omega) (by omega) (by omega)
  · exact Pending.begins_four (by omega) (by omega) (by omega) (by omega) (by omega) (by omega)
  · exact Pending.begins_four (by omega) (by omega) (by omega) (by omega) (by omega) (by omega)

/-! ### The machine takes every character -/

theorem toNat_ofNat_of_lt {m : Nat} (h : m < 256) : (UInt8.ofNat m).toNat = m := by
  rw [UInt8.toNat_ofNat', Nat.mod_eq_of_lt h]

/-- The next byte of a number that may follow, and the number read with it. -/
theorem Pending.Admits.next {p : Pending} {n : Nat} (h : p.Admits n) :
    (p.low ≤ (UInt8.ofNat (0x80 + n / 64 ^ p.owed % 64)).toNat ∧
        (UInt8.ofNat (0x80 + n / 64 ^ p.owed % 64)).toNat ≤ p.high) ∧
      64 * p.value + ((UInt8.ofNat (0x80 + n / 64 ^ p.owed % 64)).toNat - 0x80) =
        n / 64 ^ p.owed := by
  have hfront : n / 64 ^ (p.owed + 1) = n / 64 ^ p.owed / 64 := by
    rw [Nat.div_div_eq_div_mul, ← Nat.pow_succ]
  have hvalue := h.value
  rw [toNat_ofNat_of_lt (by omega)]
  exact ⟨⟨h.low, h.high⟩, by omega⟩

/-- **The rest of a character is read** where it may follow. -/
theorem Pending.Admits.decodeFrom_eq {n : Nat} {s : List Char} {rest : List UInt8}
    (hrest : ∀ position, decodeFrom position none rest = .ok s) {p : Pending} (h : p.Admits n)
    (position : Nat) : decodeFrom position (some p) (continuation n (p.owed + 1) ++ rest) =
      .ok (Char.ofNat n :: s) := by
  generalize howed : p.owed = owed
  induction owed generalizing p position with
  | zero =>
      obtain ⟨hrange, hvalue⟩ := h.next
      have hdone := next?_eq_done_iff.2 ⟨hrange, howed, rfl⟩
      rw [hvalue, howed, Nat.pow_zero, Nat.div_one] at hdone
      rw [continuation, continuation, Nat.pow_zero, Nat.div_one, List.singleton_append, decodeFrom,
        hdone]
      exact congrArg (Except.map (Char.ofNat n :: ·)) (hrest (position + 1))
  | succ owed ih =>
      obtain ⟨hrange, hvalue⟩ := h.next
      have hpending := next?_eq_pending_iff.2 ⟨hrange, owed, howed, rfl⟩
      rw [hvalue, howed] at hpending
      rw [continuation, List.cons_append, decodeFrom, hpending]
      refine ih ⟨rfl, ?_, ?_⟩ _ rfl <;> simp only <;> omega

section Leads

variable {c : Char}

/-- The lead byte of a character leads to a character that is not finished, and that may still have
the number of the one that was written. -/
theorem exists_start_two (hlow : 0x7F < c.toNat) (hhigh : c.toNat ≤ 0x7FF) :
    ∃ b p, encodeChar c = b :: continuation c.toNat (p.owed + 1) ∧
      start? b = some (.pending p) ∧ p.Admits c.toNat := by
  have hbytes := encodeChar_two hlow hhigh
  rw [Char.ofNat_toNat] at hbytes
  have hstart : ∃ p, start? (UInt8.ofNat (0xC0 + c.toNat / 64)) = some (.pending p) ∧
      p.owed = 0 ∧ p.Admits c.toNat := by
    simp only [start?, toNat_ofNat_of_lt (show 0xC0 + c.toNat / 64 < 256 by omega)]
    rw [if_neg (by omega), if_pos (by omega)]
    refine ⟨_, rfl, rfl, ?_, ?_, ?_⟩ <;> dsimp only <;> omega
  obtain ⟨p, hp, howed, hadmits⟩ := hstart
  exact ⟨_, p, by rw [hbytes, howed], hp, hadmits⟩

theorem exists_start_three (hlow : 0x7FF < c.toNat) (hhigh : c.toNat ≤ 0xFFFF) :
    ∃ b p, encodeChar c = b :: continuation c.toNat (p.owed + 1) ∧
      start? b = some (.pending p) ∧ p.Admits c.toNat := by
  have hvalid : c.toNat.isValidChar := c.valid
  have hbytes := encodeChar_three hvalid hlow hhigh
  rw [Char.ofNat_toNat] at hbytes
  have hstart : ∃ p, start? (UInt8.ofNat (0xE0 + c.toNat / 4096)) = some (.pending p) ∧
      p.owed = 1 ∧ p.Admits c.toNat := by
    unfold Nat.isValidChar at hvalid
    simp only [start?, toNat_ofNat_of_lt (show 0xE0 + c.toNat / 4096 < 256 by omega)]
    rw [if_neg (by omega), if_neg (by omega)]
    -- the lead byte of the least numbers, the one of the surrogates, and the others
    split_ifs
    · refine ⟨_, rfl, rfl, ?_, ?_, ?_⟩ <;> dsimp only <;> omega
    · refine ⟨_, rfl, rfl, ?_, ?_, ?_⟩ <;> dsimp only <;> omega
    · refine ⟨_, rfl, rfl, ?_, ?_, ?_⟩ <;> dsimp only <;> omega
    all_goals omega
  obtain ⟨p, hp, howed, hadmits⟩ := hstart
  exact ⟨_, p, by rw [hbytes, howed], hp, hadmits⟩

theorem exists_start_four (hlow : 0xFFFF < c.toNat) :
    ∃ b p, encodeChar c = b :: continuation c.toNat (p.owed + 1) ∧
      start? b = some (.pending p) ∧ p.Admits c.toNat := by
  have hvalid : c.toNat.isValidChar := c.valid
  have hbytes := encodeChar_four hvalid hlow
  rw [Char.ofNat_toNat] at hbytes
  have hstart : ∃ p, start? (UInt8.ofNat (0xF0 + c.toNat / 262144)) = some (.pending p) ∧
      p.owed = 2 ∧ p.Admits c.toNat := by
    unfold Nat.isValidChar at hvalid
    simp only [start?, toNat_ofNat_of_lt (show 0xF0 + c.toNat / 262144 < 256 by omega)]
    rw [if_neg (by omega), if_neg (by omega), if_neg (by omega), if_neg (by omega),
      if_neg (by omega)]
    -- the lead byte of the least numbers, the one of the greatest, and the others
    split_ifs
    · refine ⟨_, rfl, rfl, ?_, ?_, ?_⟩ <;> dsimp only <;> omega
    · refine ⟨_, rfl, rfl, ?_, ?_, ?_⟩ <;> dsimp only <;> omega
    · refine ⟨_, rfl, rfl, ?_, ?_, ?_⟩ <;> dsimp only <;> omega
    · omega
  obtain ⟨p, hp, howed, hadmits⟩ := hstart
  exact ⟨_, p, by rw [hbytes, howed], hp, hadmits⟩

theorem exists_start (h : 0x7F < c.toNat) :
    ∃ b p, encodeChar c = b :: continuation c.toNat (p.owed + 1) ∧
      start? b = some (.pending p) ∧ p.Admits c.toNat := by
  rcases Nat.lt_or_ge 0x7FF c.toNat with htwo | htwo
  · rcases Nat.lt_or_ge 0xFFFF c.toNat with hthree | hthree
    · exact exists_start_four hthree
    · exact exists_start_three htwo hthree
  · exact exists_start_two h htwo

end Leads

/-- **A character is read** as soon as its bytes are. -/
theorem decodeFrom_encodeChar {c : Char} {s : List Char} {rest : List UInt8}
    (hrest : ∀ position, decodeFrom position none rest = .ok s) (position : Nat) :
    decodeFrom position none (encodeChar c ++ rest) = .ok (c :: s) := by
  rcases Nat.lt_or_ge 0x7F c.toNat with hone | hone
  · obtain ⟨b, p, hbytes, hstart, hadmits⟩ := exists_start hone
    have hread := hadmits.decodeFrom_eq hrest (position + 1)
    rw [Char.ofNat_toNat] at hread
    rw [hbytes, List.cons_append, decodeFrom, hstart]
    exact hread
  · have hbytes := encodeChar_one hone
    have hstart : start? (UInt8.ofNat c.toNat) = some (.done c) := by
      simp only [start?, toNat_ofNat_of_lt (Nat.lt_of_le_of_lt hone (by decide)), if_pos hone,
        Char.ofNat_toNat]
    rw [Char.ofNat_toNat] at hbytes
    rw [hbytes, List.singleton_append, decodeFrom, hstart]
    exact congrArg (Except.map (c :: ·)) (hrest (position + 1))

/-! ### Whole texts -/

theorem map_eq_ok_iff {ε α β : Type} {f : α → β} {x : Except ε α} {b : β} :
    x.map f = .ok b ↔ ∃ a, x = .ok a ∧ f a = b := by
  cases x <;> simp [Except.map]

/-- The bytes that have been read of a character that is not finished. -/
def begun : Option Pending → List UInt8
  | none => []
  | some p => p.bytes

/-- **What is read is what would be written.** -/
theorem bytes_of_decodeFrom {position : Nat} {pending : Option Pending} {bytes : List UInt8}
    {s : List Char} (h : decodeFrom position pending bytes = .ok s)
    (hpending : ∀ p ∈ pending, p.Begins) : begun pending ++ bytes = encode s := by
  fun_induction decodeFrom position pending bytes generalizing s with
  | case1 =>
      obtain rfl := Except.ok.inj h
      rfl
  | case2 => simp at h
  | case3 position b r c hstart ih =>
      obtain ⟨t, ht, rfl⟩ := map_eq_ok_iff.1 h
      have hrest := ih ht (by simp)
      rw [encode, List.flatMap_cons, encodeChar_of_start hstart]
      simpa [begun, encode] using hrest
  | case4 position b r p hstart ih =>
      obtain ⟨hbytes, hbegins⟩ := begins_of_start hstart
      have hrest := ih h (by simpa using hbegins)
      simpa [begun, hbytes] using hrest
  | case5 => simp at h
  | case6 position p b r c hnext ih =>
      obtain ⟨t, ht, rfl⟩ := map_eq_ok_iff.1 h
      have hrest := ih ht (by simp)
      rw [encode, List.flatMap_cons, (hpending p rfl).done hnext]
      simpa [begun, encode] using hrest
  | case7 position p b r q hnext ih =>
      have hrest := ih h (by simpa using (hpending p rfl).next hnext)
      obtain ⟨-, owed, -, rfl⟩ := Pending.next?_eq_pending_iff.1 hnext
      simpa [begun] using hrest
  | case8 => simp at h

/-- A text is read back from its bytes. -/
theorem decode_encode (s : List Char) : decode (encode s) = .ok s := by
  have hfrom : ∀ position, decodeFrom position none (encode s) = .ok s := by
    induction s with
    | nil => exact fun _ => rfl
    | cons c s ih => exact decodeFrom_encodeChar ih
  exact hfrom 0

/-- **Which bytes are text**: those that are written for the text that is read. -/
theorem decode_eq_ok_iff {bytes : List UInt8} {s : List Char} :
    decode bytes = .ok s ↔ bytes = encode s := by
  constructor
  · intro h
    exact bytes_of_decodeFrom h (by simp)
  · rintro rfl
    exact decode_encode s

end BucketAccess.Text.Utf8
