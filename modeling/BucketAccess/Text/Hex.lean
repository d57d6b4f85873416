/-
**Hexadecimal digits.**

Characters that cannot be shown are written by their number, in lower-case hexadecimal digits of a
fixed width; what is read back may use digits of either case.

Main definitions:

* `BucketAccess.Text.hex` — the digits of a number, in a given width;
* `BucketAccess.Text.hexValue?` — the value of one digit;
* `BucketAccess.Text.hexNumber?` — the value of a row of digits.

Main results:

* `BucketAccess.Text.hexNumber?_hex` — what is written reads back;
* `BucketAccess.Text.length_hex` — the width is kept.
-/

set_option relaxedAutoImplicit false
set_option autoImplicit false

namespace BucketAccess.Text

/-- The digit of a value below sixteen. -/
def hexDigit (n : Nat) : Char :=
  if n < 10 then Char.ofNat (48 + n) else Char.ofNat (87 + n)

/-- The lower-case hexadecimal digits of a number, in a given width. -/
def hex : Nat → Nat → List Char
  | 0, _ => []
  | width + 1, n => hex width (n / 16) ++ [hexDigit (n % 16)]

/-- The value of a hexadecimal digit of either case. -/
def hexValue? (c : Char) : Option Nat :=
  if '0' ≤ c && c ≤ '9' then some (c.toNat - 48)
  else if 'a' ≤ c && c ≤ 'f' then some (c.toNat - 87)
  else if 'A' ≤ c && c ≤ 'F' then some (c.toNat - 55)
  else none

/-- The value of a row of hexadecimal digits, read after a value already known. -/
def hexNumberFrom? (value : Nat) : List Char → Option Nat
  | [] => some value
  | c :: r => (hexValue? c).bind fun digit => hexNumberFrom? (16 * value + digit) r

/-- The value of a row of hexadecimal digits. -/
def hexNumber? (s : List Char) : Option Nat :=
  hexNumberFrom? 0 s

theorem hexValue?_hexDigit {n : Nat} (h : n < 16) : hexValue? (hexDigit n) = some n := by
  have hall : ∀ m : Fin 16, hexValue? (hexDigit m.val) = some m.val := by decide
  exact hall ⟨n, h⟩

@[simp] theorem length_hex (width n : Nat) : (hex width n).length = width := by
  induction width generalizing n with
  | zero => rfl
  | succ width ih => simp [hex, ih]

theorem hexNumberFrom?_append (s t : List Char) (value : Nat) :
    hexNumberFrom? value (s ++ t) = (hexNumberFrom? value s).bind (hexNumberFrom? · t) := by
  induction s generalizing value with
  | nil => rfl
  | cons c r ih =>
      simp only [List.cons_append, hexNumberFrom?]
      cases hexValue? c <;> simp [ih]

/-- What is written reads back. -/
theorem hexNumber?_hex {width n : Nat} (h : n < Nat.pow 16 width) :
    hexNumber? (hex width n) = some n := by
  unfold hexNumber?
  induction width generalizing n with
  | zero =>
      have hn : n = 0 := Nat.lt_one_iff.1 h
      simp [hex, hexNumberFrom?, hn]
  | succ width ih =>
      have hdiv : n / 16 < Nat.pow 16 width :=
        Nat.div_lt_of_lt_mul (Nat.mul_comm _ 16 ▸ h)
      have hmod : n % 16 < 16 := Nat.mod_lt _ (by decide)
      simp only [hex, hexNumberFrom?_append, ih hdiv, Option.bind_some, hexNumberFrom?,
        hexValue?_hexDigit hmod]
      simp only [Option.some.injEq]
      omega

end BucketAccess.Text
