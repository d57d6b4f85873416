/-
**Files and directories.**

A tree of files says for each place, counted from the root, whether a directory or a regular file is
there, and what the file holds.  A path is followed name by name through directories that have to be
there.  What can go wrong is told by the usual errors.

Main definitions:

* `BucketAccess.Files.Node` — a directory or a regular file;
* `BucketAccess.Files.Tree` — the nodes of a tree and its current directory;
* `BucketAccess.Files.Tree.at?`, `BucketAccess.Files.Tree.put`, `BucketAccess.Files.Tree.remove` —
  looking up, placing and removing a node;
* `BucketAccess.Files.Tree.locate` — the place that a path leads to;
* `BucketAccess.Files.Tree.makeDirectory`, `BucketAccess.Files.Tree.layDirectories`,
  `BucketAccess.Files.Tree.read`, `BucketAccess.Files.Tree.write`, `BucketAccess.Files.Tree.rename`
  — what can be done with paths.

Main results:

* `BucketAccess.Files.Tree.at?_put`, `BucketAccess.Files.Tree.at?_remove` — a change at one place
  changes nothing elsewhere.
-/

import BucketAccess.Files.Path
import BucketAccess.Text.Utf8

set_option relaxedAutoImplicit false
set_option autoImplicit false

namespace BucketAccess.Files

/-! ### Nodes -/

/-- The names on the way from the root to a node. -/
abbrev Place := List (List Char)

/-- What can be at a place. -/
inductive Node where
  | directory
  /-- A regular file and the bytes in it. -/
  | file (bytes : List UInt8)
  deriving DecidableEq

/-- What can go wrong with a path. -/
inductive Fault where
  | notFound
  | alreadyExists
  | notDirectory
  | isDirectory
  | nameTooLong
  /-- The path holds a null character. -/
  | nullCharacter
  deriving DecidableEq

/-- The wording of an error. -/
def Fault.message : Fault → String
  | .notFound => "No such file or directory"
  | .alreadyExists => "File exists"
  | .notDirectory => "Not a directory"
  | .isDirectory => "Is a directory"
  | .nameTooLong => "File name too long"
  | .nullCharacter => "embedded null byte"

/-- Files and directories.  The root is a directory and is not listed. -/
structure Tree where
  /-- The names on the way from the root to the current directory. -/
  current : Place
  /-- The nodes, each with its place; of two with the same place the first one counts. -/
  nodes : List (Place × Node)

namespace Tree

/-! ### Places -/

/-- What is at a place. -/
def at? (t : Tree) (place : Place) : Option Node :=
  if place = [] then some .directory else t.nodes.lookup place

/-- Nodes without those at a place. -/
def without (place : Place) (nodes : List (Place × Node)) : List (Place × Node) :=
  nodes.filter fun entry => entry.1 != place

/-- The tree with a node at a place, instead of what was there. -/
def put (t : Tree) (place : Place) (node : Node) : Tree :=
  { t with nodes := (place, node) :: without place t.nodes }

/-- The tree with nothing at a place. -/
def remove (t : Tree) (place : Place) : Tree :=
  { t with nodes := without place t.nodes }

theorem lookup_without (place other : Place) (nodes : List (Place × Node)) :
    (without place nodes).lookup other =
      if other = place then none else nodes.lookup other := by
  unfold without
  induction nodes with
  | nil => simp
  | cons entry rest ih =>
      obtain ⟨p, node⟩ := entry
      by_cases hp : p = place
      · by_cases ho : other = place
        · simpa [hp, ho] using ih
        · have hb : (other == place) = false := by simpa using ho
          simp [hp, ih, ho, List.lookup_cons, hb]
      · by_cases ho : other = p
        · simp [hp, ho]
        · have hb : (other == p) = false := by simpa using ho
          simp [hp, List.lookup_cons, hb, ih]

/-- A node that is placed is there, and nothing else has changed. -/
theorem at?_put {t : Tree} {place : Place} (node : Node) (h : place ≠ []) (other : Place) :
    (t.put place node).at? other = if other = place then some node else t.at? other := by
  by_cases ho : other = place
  · subst ho
    simp [at?, put, h]
  · by_cases hr : other = []
    · simp [at?, hr, Ne.symm h]
    · have hb : (other == place) = false := by simpa using ho
      simp [at?, put, hr, ho, List.lookup_cons, hb, lookup_without]

/-- A node that is removed is gone, and nothing else has changed. -/
theorem at?_remove {t : Tree} {place : Place} (h : place ≠ []) (other : Place) :
    (t.remove place).at? other = if other = place then none else t.at? other := by
  by_cases ho : other = place
  · subst ho
    simp [at?, remove, h, lookup_without]
  · by_cases hr : other = []
    · simp [at?, hr, Ne.symm h]
    · simp [at?, remove, hr, ho, lookup_without]

/-! ### Following a path -/

/-- The greatest length of a name in bytes. -/
def maxName : Nat := 255

/-- The length in bytes from which on a path is too long. -/
def maxPath : Nat := 4096

/-- The length of a text in bytes. -/
def byteLength (s : List Char) : Nat :=
  (Text.Utf8.encode s).length

/-- The place that one name leads to from a directory. -/
def step (place : Place) (name : List Char) : Except Fault Place :=
  if name = Path.up then .ok place.dropLast
  else if maxName < byteLength name then .error .nameTooLong
  else .ok (place ++ [name])

/-- The directory that names lead to from a directory. -/
def follow (t : Tree) (place : Place) : List (List Char) → Except Fault Place
  | [] => .ok place
  | name :: rest =>
      match step place name with
      | .error fault => .error fault
      | .ok next =>
          match t.at? next with
          | none => .error .notFound
          | some (.file _) => .error .notDirectory
          | some .directory => t.follow next rest

/-- The place that a path leads to; all names but the last one have to lead through directories. -/
def locate (t : Tree) (p : Path) : Except Fault Place :=
  let start := if p.anchor = .here then t.current else []
  if '\x00' ∈ p.text then .error .nullCharacter
  else if maxPath ≤ byteLength p.text then .error .nameTooLong
  else
    match p.names.getLast? with
    | none => .ok start
    | some name => (t.follow start p.names.dropLast).bind fun place => step place name

/-! ### Directories -/

/-- The tree with a new directory. -/
def makeDirectory (t : Tree) (p : Path) : Except Fault Tree :=
  match t.locate p with
  | .error fault => .error fault
  | .ok place =>
      match t.at? place with
      | some _ => .error .alreadyExists
      | none => .ok (t.put place .directory)

/-- Whether a path leads to a directory. -/
def isDirectory (t : Tree) (p : Path) : Bool :=
  match t.locate p with
  | .error _ => false
  | .ok place => t.at? place == some .directory

/-- The tree with a directory that may be there already. -/
def ensureDirectory (t : Tree) (p : Path) : Except Fault Tree :=
  match t.makeDirectory p with
  | .ok t' => .ok t'
  | .error fault => if t.isDirectory p then .ok t else .error fault

/-- The tree after a change, or as it was and what went wrong. -/
def after (t : Tree) : Except Fault Tree → Tree × Option Fault
  | .ok t' => (t', none)
  | .error fault => (t, some fault)

/-- The tree with a directory and all directories on the way to it, and what went wrong, if anything
did.  Nothing is made on the way unless it is needed; what has been made stays, whatever goes wrong
after that. -/
def layDirectoriesAlong (t : Tree) (anchor : Anchor) :
    Nat → List (List Char) → Tree × Option Fault
  | 0, names => t.after (t.ensureDirectory ⟨anchor, names⟩)
  | n + 1, names =>
      match t.makeDirectory ⟨anchor, names⟩ with
      -- only now is the way to it made
      | .error .notFound =>
          match t.layDirectoriesAlong anchor n names.dropLast with
          | (t', some fault) => (t', some fault)
          | (t', none) => t'.after (t'.ensureDirectory ⟨anchor, names⟩)
      | _ => t.after (t.ensureDirectory ⟨anchor, names⟩)

/-- The tree with a directory and all directories on the way to it, as far as they can be made. -/
def layDirectories (t : Tree) (p : Path) : Tree × Option Fault :=
  t.layDirectoriesAlong p.anchor p.names.length p.names

/-- The tree with a directory and all directories on the way to it. -/
def makeDirectories (t : Tree) (p : Path) : Except Fault Tree :=
  match t.layDirectories p with
  | (t', none) => .ok t'
  | (_, some fault) => .error fault

/-! ### Files -/

/-- Whether a path leads to anything.  A way that ends early leads to nothing. -/
def leadsTo (t : Tree) (p : Path) : Except Fault Bool :=
  match t.locate p with
  | .ok place => .ok (t.at? place).isSome
  | .error .nameTooLong => .error .nameTooLong
  | .error _ => .ok false

/-- The bytes of a file. -/
def read (t : Tree) (p : Path) : Except Fault (List UInt8) :=
  match t.locate p with
  | .error fault => .error fault
  | .ok place =>
      match t.at? place with
      | none => .error .notFound
      | some .directory => .error .isDirectory
      | some (.file bytes) => .ok bytes

/-- The tree with a file of the given bytes, new or written over. -/
def write (t : Tree) (p : Path) (bytes : List UInt8) : Except Fault Tree :=
  match t.locate p with
  | .error fault => .error fault
  | .ok place =>
      match t.at? place with
      | some .directory => .error .isDirectory
      | _ => .ok (t.put place (.file bytes))

/-- The tree in which a file has been moved to another path, over a file that may be there. -/
def rename (t : Tree) (source target : Path) : Except Fault Tree := do
  let bytes ← t.read source
  let old ← t.locate source
  let new ← t.locate target
  match t.at? new with
  | some .directory => .error .isDirectory
  | _ => .ok ((t.remove old).put new (.file bytes))

/-- The tree without the file that a path leads to, if it leads to one. -/
def discard (t : Tree) (p : Path) : Tree :=
  match t.locate p with
  | .error _ => t
  | .ok place => if place = [] then t else t.remove place

end Tree

end BucketAccess.Files
