/-
**Paths of files.**

A path is a row of names, taken from the current directory or from the root.  Empty names and single
periods are left out when a path is read from a text; two periods, which lead to the parent
directory, are kept, since where they lead depends on the files.  Exactly two slashes in front are
kept apart from one slash.

Main definitions:

* `BucketAccess.Files.Path` — a path;
* `BucketAccess.Files.Path.ofText`, `BucketAccess.Files.Path.text` — a path and its text;
* `BucketAccess.Files.Path.join` — a path taken from another one.

Main results:

* `BucketAccess.Files.Path.names_ofText` — no name is empty or a single period, and none holds a
  slash.
-/

import BucketAccess.Text.Split

set_option relaxedAutoImplicit false
set_option autoImplicit false

namespace BucketAccess.Files

open BucketAccess.Text

/-- Where a path starts. -/
inductive Anchor where
  /-- At the current directory. -/
  | here
  /-- At the root. -/
  | root
  /-- At the root, written with two slashes. -/
  | doubleRoot
  deriving DecidableEq

/-- How the start of a path is written. -/
def Anchor.text : Anchor → List Char
  | .here => []
  | .root => ['/']
  | .doubleRoot => ['/', '/']

/-- A path. -/
structure Path where
  /-- Where it starts. -/
  anchor : Anchor
  /-- The names on the way. -/
  names : List (List Char)
  deriving DecidableEq

namespace Path

/-- The start of the path of a text. -/
def anchorOf : List Char → Anchor
  | '/' :: '/' :: '/' :: _ => .root
  | '/' :: '/' :: _ => .doubleRoot
  | '/' :: _ => .root
  | _ => .here

/-- The name that leads to the directory itself. -/
def self : List Char := ['.']

/-- The name that leads to the parent directory. -/
def up : List Char := ['.', '.']

/-- The path of a text. -/
def ofText (s : List Char) : Path :=
  ⟨anchorOf s, (splitOn '/' s).filter fun name => name ≠ [] ∧ name ≠ self⟩

/-- The text of a path; the current directory is written as a period. -/
def text (p : Path) : List Char :=
  if p.anchor = .here ∧ p.names = [] then self
  else p.anchor.text ++ joinWith '/' p.names

/-- A path taken from another one; a path from the root stands on its own. -/
def join (p q : Path) : Path :=
  if q.anchor = .here then ⟨p.anchor, p.names ++ q.names⟩ else q

/-- The path without its last name. -/
def parent (p : Path) : Path :=
  ⟨p.anchor, p.names.dropLast⟩

/-- The path with something added to its last name. -/
def extend (p : Path) (ending : List Char) : Path :=
  ⟨p.anchor, p.names.dropLast ++ [p.names.getLastD [] ++ ending]⟩

/-- The text of a path as a string. -/
def toString (p : Path) : String :=
  String.ofList p.text

/-- No name is empty or a single period, and none holds a slash. -/
theorem names_ofText {s name : List Char} (h : name ∈ (ofText s).names) :
    name ≠ [] ∧ name ≠ self ∧ '/' ∉ name := by
  simp only [ofText, List.mem_filter, decide_eq_true_eq] at h
  exact ⟨h.2.1, h.2.2, not_mem_of_mem_splitOn h.1⟩

end Path

end BucketAccess.Files
