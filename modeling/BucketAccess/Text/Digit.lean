/-
**Digits and the letters of names.**

Account numbers, hexadecimal ids and the parts of a bucket name are made of ASCII characters only,
and each of these classes is spelled out here.  One rule, the one against names that look like an
address, counts the decimal digits of every writing system; in each of them the ten digits follow
one another, so the system is known by its zero.

Main definitions:

* `BucketAccess.Text.isDigit`, `BucketAccess.Text.isLowerHex`, `BucketAccess.Text.isAlnum` — the
  ASCII classes;
* `BucketAccess.Text.isDecimalDigit` — the decimal digits of every writing system;
* `BucketAccess.Text.allNonempty` — a text of one or more characters of a class;
* `BucketAccess.Text.digitsOfLength` — a text of so many ASCII digits.

Main results:

* `BucketAccess.Text.isDecimalDigit_of_isDigit` — the ASCII digits are decimal digits.
-/

set_option relaxedAutoImplicit false
set_option autoImplicit false

namespace BucketAccess.Text

/-! ### ASCII classes -/

/-- The ASCII digits. -/
def isDigit (c : Char) : Bool :=
  '0' ≤ c && c ≤ '9'

/-- The ASCII lower-case letters. -/
def isLower (c : Char) : Bool :=
  'a' ≤ c && c ≤ 'z'

/-- The ASCII upper-case letters. -/
def isUpper (c : Char) : Bool :=
  'A' ≤ c && c ≤ 'Z'

/-- The ASCII letters and digits. -/
def isAlnum (c : Char) : Bool :=
  isLower c || isUpper c || isDigit c

/-- The lower-case hexadecimal digits. -/
def isLowerHex (c : Char) : Bool :=
  ('a' ≤ c && c ≤ 'f') || isDigit c

/-- The characters of a service or region name: lower-case letters, digits and hyphens. -/
def isToken (c : Char) : Bool :=
  isLower c || isDigit c || c == '-'

/-- A text of one or more characters of a class. -/
def allNonempty {α : Type} (p : α → Bool) (s : List α) : Bool :=
  !s.isEmpty && s.all p

/-- A text of exactly `n` ASCII digits. -/
def digitsOfLength (n : Nat) (s : List Char) : Bool :=
  s.length == n && s.all isDigit

/-! ### Decimal digits of every writing system -/

/-- The zeros of the writing systems that have decimal digits. -/
def decimalZeros : List Nat :=
  [0x30, 0x660, 0x6F0, 0x7C0, 0x966, 0x9E6, 0xA66, 0xAE6, 0xB66, 0xBE6, 0xC66, 0xCE6, 0xD66,
    0xDE6, 0xE50, 0xED0, 0xF20, 0x1040, 0x1090, 0x17E0, 0x1810, 0x1946, 0x19D0, 0x1A80, 0x1A90,
    0x1B50, 0x1BB0, 0x1C40, 0x1C50, 0xA620, 0xA8D0, 0xA900, 0xA9D0, 0xA9F0, 0xAA50, 0xABF0,
    0xFF10, 0x104A0, 0x10D30, 0x11066, 0x110F0, 0x11136, 0x111D0, 0x112F0, 0x11450, 0x114D0,
    0x11650, 0x116C0, 0x11730, 0x118E0, 0x11950, 0x11C50, 0x11D50, 0x11DA0, 0x16A60, 0x16AC0,
    0x16B50, 0x1D7CE, 0x1D7D8, 0x1D7E2, 0x1D7EC, 0x1D7F6, 0x1E140, 0x1E2F0, 0x1E950, 0x1FBF0]

/-- Whether a character is the decimal digit of some writing system. -/
def isDecimalDigit (c : Char) : Bool :=
  decimalZeros.any fun z => z ≤ c.toNat && c.toNat < z + 10

/-- The ASCII digits are decimal digits. -/
theorem isDecimalDigit_of_isDigit {c : Char} (h : isDigit c = true) : isDecimalDigit c = true := by
  simp only [isDigit, Bool.and_eq_true, decide_eq_true_eq, Char.le_def, UInt32.le_iff_toNat_le] at h
  have h0 : 48 ≤ c.toNat := h.1
  have h9 : c.toNat ≤ 57 := h.2
  refine List.any_eq_true.2 ⟨0x30, by simp [decimalZeros], ?_⟩
  simp only [Bool.and_eq_true, decide_eq_true_eq]
  omega

end BucketAccess.Text
