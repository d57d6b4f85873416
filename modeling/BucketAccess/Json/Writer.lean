/-
**Writing a document.**

A document is written in ASCII only: characters that are not visible ASCII are escaped, those beyond
the first 65536 as two halves, and a half on its own as what it is.  The blanks between tokens are
the only choice there is; a document is written on one line, or with each element on a line of its
own, two spaces further in than the brackets around it.  Empty containers stay closed in both.

Writing goes into a document as deep as it is nested.  A writer that keeps its open containers on a
stack of bounded size has to give up on documents which are nested about as deep as the deepest ones
that it can read; this bound is left out here.

Main definitions:

* `BucketAccess.Json.escapedChar`, `BucketAccess.Json.escapedPoint`,
  `BucketAccess.Json.writtenString` — a string as it is written;
* `BucketAccess.Json.Spacing` — the blanks between tokens, and `BucketAccess.Json.oneLine` and
  `BucketAccess.Json.indented`;
* `BucketAccess.Json.Value.written` — a value as it is written;
* `BucketAccess.Json.Value.render` — **the text of a document**.

Main results:

* `BucketAccess.Json.ascii_of_mem_writtenString` — strings are written in ASCII.
-/

import BucketAccess.Decimal.Layout
import BucketAccess.Json.Value

set_option relaxedAutoImplicit false
set_option autoImplicit false

namespace BucketAccess.Json

open BucketAccess.Text (Point Str hex)

/-! ### Strings -/

/-- The characters that are written as a letter after a backslash, each with its letter. -/
def writtenEscapes : List (Char × Char) :=
  [('"', '"'), ('\\', '\\'), ('\x08', 'b'), ('\x0c', 'f'), ('\n', 'n'), ('\r', 'r'), ('\t', 't')]

/-- A unit of sixteen bits as it is written. -/
def writtenUnit (n : Nat) : List Char :=
  '\\' :: 'u' :: hex 4 n

/-- A character of a string as it is written. -/
def escapedChar (c : Char) : List Char :=
  match writtenEscapes.lookup c with
  | some letter => ['\\', letter]
  | none =>
      if 0x20 ≤ c.toNat ∧ c.toNat ≤ 0x7E then [c]
      else if c.toNat ≤ 0xFFFF then writtenUnit c.toNat
      else
        writtenUnit (0xD800 + (c.toNat - 0x10000) / 0x400) ++
          writtenUnit (0xDC00 + (c.toNat - 0x10000) % 0x400)

/-- A point of a string as it is written. -/
def escapedPoint : Point → List Char
  | .char c => escapedChar c
  | .half h => writtenUnit h.unit

/-- A string as it is written. -/
def writtenString (s : Str) : List Char :=
  '"' :: s.toList.flatMap escapedPoint ++ ['"']

/-! ### Values -/

/-- The blanks between tokens, which depend on how many containers are open around them. -/
structure Spacing where
  /-- The blanks behind an opening bracket. -/
  opening : Nat → List Char
  /-- The blanks behind a comma. -/
  between : Nat → List Char
  /-- The blanks before a closing bracket. -/
  closing : Nat → List Char

/-- Everything on one line, with a space behind each comma. -/
def oneLine : Spacing where
  opening _ := []
  between _ := [' ']
  closing _ := []

/-- A new line, two spaces further in for each container that is open. -/
def newLine (depth : Nat) : List Char :=
  '\n' :: List.replicate (2 * depth) ' '

/-- Each element on a line of its own, and the closing bracket on a line of its own. -/
def indented : Spacing where
  opening depth := newLine (depth + 1)
  between depth := newLine (depth + 1)
  closing depth := newLine depth

mutual

/-- A value as it is written, with `depth` containers open around it. -/
def Value.written (spacing : Spacing) (depth : Nat) : Value → List Char
  | .null => ['n', 'u', 'l', 'l']
  | .bool true => ['t', 'r', 'u', 'e']
  | .bool false => ['f', 'a', 'l', 's', 'e']
  | .int i => Decimal.intDigits i
  | .real x => (Decimal.plainLayout "Infinity").render x
  | .str s => writtenString s
  | .arr [] => ['[', ']']
  | .arr (v :: rest) =>
      '[' :: spacing.opening depth ++ v.written spacing (depth + 1) ++
        writtenItems spacing depth rest ++ spacing.closing depth ++ [']']
  | .obj [] => ['{', '}']
  | .obj ((key, v) :: rest) =>
      '{' :: spacing.opening depth ++ writtenString key ++ ':' :: ' ' ::
        v.written spacing (depth + 1) ++ writtenMembers spacing depth rest ++
          spacing.closing depth ++ ['}']

/-- The elements of an array behind the first one. -/
def writtenItems (spacing : Spacing) (depth : Nat) : List Value → List Char
  | [] => []
  | v :: rest =>
      ',' :: spacing.between depth ++ v.written spacing (depth + 1) ++
        writtenItems spacing depth rest

/-- The members of an object behind the first one. -/
def writtenMembers (spacing : Spacing) (depth : Nat) : List (Str × Value) → List Char
  | [] => []
  | (key, v) :: rest =>
      ',' :: spacing.between depth ++ writtenString key ++ ':' :: ' ' ::
        v.written spacing (depth + 1) ++ writtenMembers spacing depth rest

end

/-- **The text of a document.** -/
def Value.render (spacing : Spacing) (v : Value) : String :=
  String.ofList (v.written spacing 0)

/-! ### ASCII only -/

theorem ascii_of_mem_hex {width n : Nat} {c : Char} (h : c ∈ hex width n) :
    0x20 ≤ c.toNat ∧ c.toNat ≤ 0x7E := by
  induction width generalizing n with
  | zero => simp [hex] at h
  | succ width ih =>
      rcases List.mem_append.1 h with h | h
      · exact ih h
      · have hall : ∀ m : Fin 16, 0x20 ≤ (Text.hexDigit m.val).toNat ∧
            (Text.hexDigit m.val).toNat ≤ 0x7E := by decide
        rw [List.mem_singleton.1 h]
        exact hall ⟨n % 16, Nat.mod_lt _ (by decide)⟩

theorem ascii_of_mem_writtenUnit {n : Nat} {c : Char} (h : c ∈ writtenUnit n) :
    0x20 ≤ c.toNat ∧ c.toNat ≤ 0x7E := by
  simp only [writtenUnit, List.mem_cons] at h
  rcases h with rfl | rfl | h
  · decide
  · decide
  · exact ascii_of_mem_hex h

theorem ascii_of_mem_escapedChar {c d : Char} (h : d ∈ escapedChar c) :
    0x20 ≤ d.toNat ∧ d.toNat ≤ 0x7E := by
  have htable : ∀ p ∈ writtenEscapes, 0x20 ≤ p.2.toNat ∧ p.2.toNat ≤ 0x7E := by decide
  unfold escapedChar at h
  split at h
  · next letter hl =>
      have hmem : (c, letter) ∈ writtenEscapes := by
        obtain ⟨l₁, l₂, heq, _⟩ := List.lookup_eq_some_iff.1 hl
        simp [heq]
      simp only [List.mem_cons, List.not_mem_nil, or_false] at h
      rcases h with rfl | rfl
      · decide
      · exact htable _ hmem
  · split at h
    · next hc => exact List.mem_singleton.1 h ▸ hc
    · split at h
      · exact ascii_of_mem_writtenUnit h
      · rcases List.mem_append.1 h with h | h
        · exact ascii_of_mem_writtenUnit h
        · exact ascii_of_mem_writtenUnit h

/-- Strings are written in visible ASCII. -/
theorem ascii_of_mem_writtenString {s : Str} {c : Char} (h : c ∈ writtenString s) :
    0x20 ≤ c.toNat ∧ c.toNat ≤ 0x7E := by
  simp only [writtenString, List.cons_append, List.mem_cons, List.mem_append, List.mem_flatMap,
    List.not_mem_nil, or_false] at h
  rcases h with rfl | ⟨p, _, hp⟩ | rfl
  · decide
  · cases p with
    | char d => exact ascii_of_mem_escapedChar hp
    | half d => exact ascii_of_mem_writtenUnit hp
  · decide

end BucketAccess.Json
