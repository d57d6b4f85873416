/-
**Reading a document.**

A document is one value, with blanks around every token and nothing else.  Reading stops at the
first fault: a mistake in the form is reported where it stands, and a container that is nested too
deep as soon as it is opened.  The readers of the values that may stand inside a container are built
from the inside out, one level of nesting at a time.

Main definitions:

* `BucketAccess.Json.scalar` — a value that holds no values;
* `BucketAccess.Json.member` — a member of an object;
* `BucketAccess.Json.valueWithin` — a value whose containers hold what a given reader reads;
* `BucketAccess.Json.value` — a value with a bounded nesting of containers;
* `BucketAccess.Json.read` — **the document that a text holds**.
-/

import BucketAccess.Json.Number
import BucketAccess.Json.Text
import BucketAccess.Text.Split

set_option relaxedAutoImplicit false
set_option autoImplicit false

namespace BucketAccess.Json

open BucketAccess.Text (Str dropLead? dropLead?_eq_some_iff)

/-! ### Values that hold no values -/

/-- The words that stand for a value. -/
def words : List (List Char × Value) :=
  [(['n', 'u', 'l', 'l'], .null), (['t', 'r', 'u', 'e'], .bool true),
    (['f', 'a', 'l', 's', 'e'], .bool false)]

/-- The words that stand for numbers which no document may hold. -/
def excludedWords : List String :=
  ["NaN", "Infinity", "-Infinity"]

/-- The value of the word at the front of a text, if there is one. -/
def word? (s : List Char) : Option (Value × List Char) :=
  words.findSome? fun (word, v) => (dropLead? word s).map fun rest => (v, rest)

/-- A value that is neither a string nor a container. -/
def atom (s : List Char) : Reading Value :=
  match word? s with
  | some found => .ok found
  | none =>
      -- before numbers, since one of the words starts like a number
      match excludedWords.find? (·.toList.isPrefixOf s) with
      | some word => .error (.excluded word)
      | none =>
          match Numeral.take? s with
          | none => mistake .noValue s
          | some (n, rest) => n.value.map (·, rest)

/-- A value that holds no values. -/
def scalar (s : List Char) : Reading Value :=
  match s with
  | '"' :: rest => (stringBody.run rest).map .str
  | s => atom s

theorem length_lt_of_word? {s rest : List Char} {v : Value} (h : word? s = some (v, rest)) :
    rest.length < s.length := by
  obtain ⟨⟨word, v'⟩, hmem, hfound⟩ := List.exists_of_findSome?_eq_some h
  obtain ⟨r, hr, heq⟩ := Option.map_eq_some_iff.1 hfound
  have hlen : 0 < word.length := by
    have hall : ∀ w ∈ words.map Prod.fst, 0 < w.length := by decide
    exact hall word (List.mem_map.2 ⟨_, hmem, rfl⟩)
  rw [dropLead?_eq_some_iff.1 hr, ← (Prod.mk.inj heq).2, List.length_append]
  omega

theorem length_lt_of_atom {s rest : List Char} {v : Value} (h : atom s = .ok (v, rest)) :
    rest.length < s.length := by
  unfold atom at h
  split at h
  · next hword => exact length_lt_of_word? (by simpa using Except.ok.inj h ▸ hword)
  · split at h
    · simp at h
    · split at h
      · simp [mistake] at h
      · next n r htake =>
          cases hv : n.value with
          | error fault => simp [hv, Except.map] at h
          | ok w =>
              simp only [hv, Except.map, Except.ok.injEq, Prod.mk.injEq] at h
              exact h.2 ▸ Numeral.length_lt_of_take? htake

theorem length_lt_of_scalar {s rest : List Char} {v : Value} (h : scalar s = .ok (v, rest)) :
    rest.length < s.length := by
  unfold scalar at h
  split at h
  · obtain ⟨_, hbody, _⟩ := Reading.map_eq_ok_iff.1 h
    exact Nat.lt_succ_of_lt (stringBody.shorter hbody)
  · exact length_lt_of_atom h

/-! ### Containers -/

/-- A member of an object: a name, a colon and a value. -/
def member (element : Reader Value) : Reader (Str × Value) where
  run s :=
    match s with
    | '"' :: named =>
        match stringBody.run named with
        | .error fault => .error fault
        | .ok (key, after) =>
            match skipSpace after with
            | ':' :: rest => (element.run (skipSpace rest)).map (key, ·)
            | t => mistake .noColon t
    | s => mistake .noName s
  shorter := by
    intro s m rest h
    split at h
    · split at h
      · simp at h
      · next key after hkey =>
          split at h
          · next r hafter =>
              obtain ⟨_, hvalue, _⟩ := Reading.map_eq_ok_iff.1 h
              have h₁ := stringBody.shorter hkey
              have h₂ := length_skipSpace_le after
              have h₃ := length_skipSpace_le r
              have h₄ := element.shorter hvalue
              rw [hafter, List.length_cons] at h₂
              simp only [List.length_cons]
              omega
          · simp [mistake] at h
    · simp [mistake] at h

/-- An array after its opening bracket. -/
def array (element : Reader Value) (s : List Char) : Reading Value :=
  match skipSpace s with
  | ']' :: rest => .ok (.arr [], rest)
  | t => (elements element ']' t).map .arr

/-- An object after its opening bracket. -/
def object (element : Reader Value) (s : List Char) : Reading Value :=
  match skipSpace s with
  | '}' :: rest => .ok (.obj [], rest)
  | t => (elements (member element) '}' t).map fun named => .obj (Members.ofList named)

theorem length_le_of_array {element : Reader Value} {s rest : List Char} {v : Value}
    (h : array element s = .ok (v, rest)) : rest.length ≤ s.length := by
  have hskip := length_skipSpace_le s
  unfold array at h
  split at h
  · next r hs =>
      rw [hs, List.length_cons] at hskip
      simp only [Except.ok.injEq, Prod.mk.injEq] at h
      rw [← h.2]
      omega
  · obtain ⟨_, hfound, _⟩ := Reading.map_eq_ok_iff.1 h
    exact Nat.le_trans (Nat.le_of_lt (length_lt_of_elements hfound)) hskip

theorem length_le_of_object {element : Reader Value} {s rest : List Char} {v : Value}
    (h : object element s = .ok (v, rest)) : rest.length ≤ s.length := by
  have hskip := length_skipSpace_le s
  unfold object at h
  split at h
  · next r hs =>
      rw [hs, List.length_cons] at hskip
      simp only [Except.ok.injEq, Prod.mk.injEq] at h
      rw [← h.2]
      omega
  · obtain ⟨_, hfound, _⟩ := Reading.map_eq_ok_iff.1 h
    exact Nat.le_trans (Nat.le_of_lt (length_lt_of_elements hfound)) hskip

/-! ### Nesting -/

/-- A value whose containers hold what the given reader reads; without a reader no container may be
opened. -/
def valueWithin (element : Option (Reader Value)) : Reader Value where
  run s :=
    match s, element with
    | '[' :: _, none => .error (.tooDeep .array)
    | '{' :: _, none => .error (.tooDeep .object)
    | '[' :: rest, some element => array element rest
    | '{' :: rest, some element => object element rest
    | s, _ => scalar s
  shorter := by
    intro s v rest h
    split at h
    · simp at h
    · simp at h
    · exact Nat.lt_succ_of_le (length_le_of_array h)
    · exact Nat.lt_succ_of_le (length_le_of_object h)
    · exact length_lt_of_scalar h

/-- A value with at most so many containers inside one another. -/
def value : Nat → Reader Value
  | 0 => valueWithin none
  | depth + 1 => valueWithin (some (value depth))

/-! ### Documents -/

/-- The document that a text holds, with at most so many containers inside one another, or a fault
with the number of characters left. -/
def document (limit : Nat) (s : List Char) : Except (Fault Nat) Value :=
  match s with
  | '\uFEFF' :: _ => .error (.malformed .byteOrderMark s.length)
  | _ =>
      match (value limit).run (skipSpace s) with
      | .error fault => .error fault
      | .ok (v, rest) =>
          match skipSpace rest with
          | [] => .ok v
          | t => .error (.malformed .extraText t.length)

/-- **The document that a text holds**, or why there is none.  How deep it may be nested depends on
how much room there is for open containers where it is read. -/
def read (limit : Nat) (text : String) : Except (Fault Place) Value :=
  (document limit text.toList).mapError (Fault.map (Place.ofLeft text.toList))

end BucketAccess.Json
