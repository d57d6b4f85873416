/-
**Text files as bytes: UTF-8.**

Files and the standard input arrive as bytes and hold text in UTF-8.  The bytes are read one at a
time.  Between characters any lead byte may come; after a lead byte a known number of continuation
bytes is owed, and the first of these may be confined to a narrower range, which keeps out
overlong forms, surrogates and numbers beyond the last character.  Bytes that are no text are
reported with their place and the reason.

Main definitions:

* `BucketAccess.Text.Utf8.Pending` — a character of which some bytes are still owed;
* `BucketAccess.Text.Utf8.start?`, `BucketAccess.Text.Utf8.Pending.next?` — one byte between
  characters, and one byte inside a character;
* `BucketAccess.Text.Utf8.decode` — the text of a row of bytes, or the first fault;
* `BucketAccess.Text.Utf8.encode` — the bytes of a text;
* `BucketAccess.Text.Utf8.Fault.message` — the wording of a fault.

Main results:

* `BucketAccess.Text.Utf8.decode_ascii` — bytes below 128 are the characters of the same number.
-/

import BucketAccess.Text.Hex

set_option relaxedAutoImplicit false
set_option autoImplicit false

namespace BucketAccess.Text.Utf8

/-! ### One byte at a time -/

/-- A character of which some bytes have been read and some are still owed. -/
structure Pending where
  /-- The bytes read so far, the lead byte first. -/
  bytes : List UInt8
  /-- The number that the bytes read so far stand for. -/
  value : Nat
  /-- How many bytes are owed after the next one. -/
  owed : Nat
  /-- The least number that the next byte may have. -/
  low : Nat
  /-- The greatest number that the next byte may have. -/
  high : Nat

/-- What a byte leads to: a finished character, or one that owes more bytes. -/
inductive Progress where
  | done (c : Char)
  | pending (p : Pending)

/-- A byte between characters; nothing where no character starts with it. -/
def start? (b : UInt8) : Option Progress :=
  let n := b.toNat
  if n ≤ 0x7F then some (.done (Char.ofNat n))
  else if 0xC2 ≤ n ∧ n ≤ 0xDF then some (.pending ⟨[b], n - 0xC0, 0, 0x80, 0xBF⟩)
  else if n = 0xE0 then some (.pending ⟨[b], 0, 1, 0xA0, 0xBF⟩)
  else if n = 0xED then some (.pending ⟨[b], 0xD, 1, 0x80, 0x9F⟩)
  else if 0xE1 ≤ n ∧ n ≤ 0xEF then some (.pending ⟨[b], n - 0xE0, 1, 0x80, 0xBF⟩)
  else if n = 0xF0 then some (.pending ⟨[b], 0, 2, 0x90, 0xBF⟩)
  else if n = 0xF4 then some (.pending ⟨[b], 4, 2, 0x80, 0x8F⟩)
  else if 0xF1 ≤ n ∧ n ≤ 0xF3 then some (.pending ⟨[b], n - 0xF0, 2, 0x80, 0xBF⟩)
  else none

/-- A byte inside a character; nothing where the byte does not continue it. -/
def Pending.next? (p : Pending) (b : UInt8) : Option Progress :=
  let n := b.toNat
  if p.low ≤ n ∧ n ≤ p.high then
    let value := 64 * p.value + (n - 0x80)
    match p.owed with
    | 0 => some (.done (Char.ofNat value))
    | owed + 1 => some (.pending ⟨p.bytes ++ [b], value, owed, 0x80, 0xBF⟩)
  else none

/-! ### Faults -/

/-- Why bytes are no text. -/
inductive Reason where
  /-- No character starts with the byte. -/
  | badStart
  /-- A byte that does not continue the character begun before it. -/
  | badContinuation
  /-- The bytes end inside a character. -/
  | endOfData
  deriving DecidableEq

/-- The wording of a reason. -/
def Reason.text : Reason → String
  | .badStart => "invalid start byte"
  | .badContinuation => "invalid continuation byte"
  | .endOfData => "unexpected end of data"

/-- Bytes that are no text: where they are, what they are, and why. -/
structure Fault where
  /-- How many bytes stand before them. -/
  position : Nat
  /-- The bytes at fault. -/
  bytes : List UInt8
  /-- Why they are no text. -/
  reason : Reason

/-- The wording of a fault: a single byte is shown, of several only the range is told. -/
def Fault.message (f : Fault) : String :=
  match f.bytes with
  | [b] =>
      s!"'utf-8' codec can't decode byte 0x{String.ofList (hex 2 b.toNat)} in position " ++
        s!"{f.position}: {f.reason.text}"
  | bytes =>
      s!"'utf-8' codec can't decode bytes in position {f.position}-" ++
        s!"{f.position + bytes.length - 1}: {f.reason.text}"

/-! ### Whole texts -/

/-- The text of the bytes from a given position on, inside a character or between characters. -/
def decodeFrom (position : Nat) : Option Pending → List UInt8 → Except Fault (List Char)
  | none, [] => .ok []
  | some p, [] => .error ⟨position - p.bytes.length, p.bytes, .endOfData⟩
  | none, b :: r =>
      match start? b with
      | some (.done c) => (decodeFrom (position + 1) none r).map (c :: ·)
      | some (.pending p) => decodeFrom (position + 1) (some p) r
      | none => .error ⟨position, [b], .badStart⟩
  | some p, b :: r =>
      match p.next? b with
      | some (.done c) => (decodeFrom (position + 1) none r).map (c :: ·)
      | some (.pending q) => decodeFrom (position + 1) (some q) r
      | none => .error ⟨position - p.bytes.length, p.bytes, .badContinuation⟩

/-- The text of a row of bytes, or the first fault in it. -/
def decode (bytes : List UInt8) : Except Fault (List Char) :=
  decodeFrom 0 none bytes

/-- The bytes of a character. -/
def encodeChar (c : Char) : List UInt8 :=
  let n := c.toNat
  if n ≤ 0x7F then [UInt8.ofNat n]
  else if n ≤ 0x7FF then [UInt8.ofNat (0xC0 + n / 64), UInt8.ofNat (0x80 + n % 64)]
  else if n ≤ 0xFFFF then
    [UInt8.ofNat (0xE0 + n / 4096), UInt8.ofNat (0x80 + n / 64 % 64), UInt8.ofNat (0x80 + n % 64)]
  else
    [UInt8.ofNat (0xF0 + n / 262144), UInt8.ofNat (0x80 + n / 4096 % 64),
      UInt8.ofNat (0x80 + n / 64 % 64), UInt8.ofNat (0x80 + n % 64)]

/-- The bytes of a text. -/
def encode (s : List Char) : List UInt8 :=
  s.flatMap encodeChar

/-- Bytes below 128 are the characters of the same number. -/
theorem decode_ascii {bytes : List UInt8} (h : ∀ b ∈ bytes, b.toNat ≤ 0x7F) :
    decode bytes = .ok (bytes.map fun b => Char.ofNat b.toNat) := by
  have hfrom : ∀ position, decodeFrom position none bytes =
      .ok (bytes.map fun b => Char.ofNat b.toNat) := by
    induction bytes with
    | nil => intro _; rfl
    | cons b r ih =>
        intro position
        have hb : start? b = some (.done (Char.ofNat b.toNat)) := by simp [start?, h b (by simp)]
        simp [decodeFrom, hb, ih (fun d hd => h d (by simp [hd])), Except.map]
  exact hfrom 0

end BucketAccess.Text.Utf8
