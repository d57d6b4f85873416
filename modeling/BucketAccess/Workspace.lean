/-
**Where work is done.**

Work changes four things that can be seen afterwards: the files, the number of the next id, the log
and what has been printed.  Work that fails keeps what it has changed up to then.

Main definitions:

* `BucketAccess.Workspace` — what work changes;
* `BucketAccess.Work` — work that may fail;
* `BucketAccess.Work.record`, `BucketAccess.Work.print`, `BucketAccess.Work.takeNumber`,
  `BucketAccess.Work.changeFiles`, `BucketAccess.Work.alterFiles` — the steps that work is made of.
-/

import BucketAccess.Failure

set_option relaxedAutoImplicit false
set_option autoImplicit false

namespace BucketAccess

/-- What work changes. -/
structure Workspace where
  /-- The files. -/
  files : Files.Tree
  /-- The number of the next id. -/
  nextNumber : Nat
  /-- The records of what happened, the first one first. -/
  log : List Log.Record
  /-- The lines that have been printed, the first one first. -/
  printed : List String

/-- A workspace with the given files in which nothing has been done. -/
def Workspace.fresh (files : Files.Tree) : Workspace :=
  ⟨files, 1, [], []⟩

/-- Work that may fail. -/
abbrev Work (α : Type) := ExceptT Failure (StateM Workspace) α

namespace Work

/-- The result of work and the workspace after it. -/
def runIn {α : Type} (work : Work α) (w : Workspace) : Except Failure α × Workspace :=
  work.run.run w

/-- Work that is done already, or has failed. -/
def ofExcept {ε α : Type} (failure : ε → Failure) : Except ε α → Work α
  | .ok a => pure a
  | .error e => throw (failure e)

/-- Adds a record to the log. -/
def record (level : Log.Level) (text : String) : Work Unit :=
  modify fun w => { w with log := w.log ++ [⟨level, text⟩] }

/-- Prints a line, or fails and prints nothing of it where there are halves of characters in it. -/
def print (line : Text.Str) : Work Unit := do
  let text ← ofExcept .unprintable line.text
  modify fun w => { w with printed := w.printed ++ [text] }

/-- Takes the number of the next id. -/
def takeNumber : Work Nat :=
  modifyGet fun w => (w.nextNumber, { w with nextNumber := w.nextNumber + 1 })

/-- Changes the files, or fails and leaves them alone. -/
def changeFiles (change : Files.Tree → Except Files.Fault Files.Tree) : Work Unit := do
  let files ← ofExcept .file (change (← get).files)
  modify fun w => { w with files := files }

/-- Changes the files as far as possible.  What has changed stays when something goes wrong. -/
def alterFiles (change : Files.Tree → Files.Tree × Option Files.Fault) : Work Unit := do
  let (files, fault) := change (← get).files
  modify fun w => { w with files := files }
  match fault with
  | none => return
  | some fault => throw (.file fault)

/-- Asks about the files. -/
def askFiles {α : Type} (question : Files.Tree → Except Files.Fault α) : Work α := do
  ofExcept .file (question (← get).files)

end Work

end BucketAccess
