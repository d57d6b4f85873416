/-
**What commands print.**

Verdicts are printed for people, line by line with a mark for each error and warning, or as a
document for programs.

Main definitions:

* `BucketAccess.CommandLine.verdictLines` — a verdict for people;
* `BucketAccess.CommandLine.verdictDocument` — a verdict as a document;
* `BucketAccess.CommandLine.adviceLine`, `BucketAccess.CommandLine.adviceDocument` — advice in both
  forms;
* `BucketAccess.CommandLine.presetLines`, `BucketAccess.CommandLine.actionLines` — the lists that
  can be asked for.
-/

import BucketAccess.Catalog.Actions
import BucketAccess.Json.Writer
import BucketAccess.Preset
import BucketAccess.Principal.Advice

set_option relaxedAutoImplicit false
set_option autoImplicit false

namespace BucketAccess.CommandLine

open BucketAccess.Json (Value)
open BucketAccess.Text (Str)

/-- A verdict for people. -/
def verdictLines (title : String) (v : Verdict Str) : List Str :=
  ((title ++ ": " ++ if v.isValid then "VALID" else "INVALID" : String) : Str) ::
    (v.errors.map (fun e : Str => "  ✗ " ++ e) ++ v.warnings.map (fun w : Str => "  ⚠ " ++ w))

/-- A list of texts as a document. -/
def textsDocument (texts : List Str) : Value :=
  .arr (texts.map .str)

/-- A verdict as a document. -/
def verdictDocument (v : Verdict Str) : Value :=
  .obj [("is_valid", .bool v.isValid), ("errors", textsDocument v.errors),
    ("warnings", textsDocument v.warnings)]

/-- The mark of a kind of advice. -/
def adviceMark : Principal.Advice.Kind → String
  | .hint => "Hint"
  | .warning => "Warning"
  | .error => "Error"
  | .success => "OK"

/-- Advice for people. -/
def adviceLine (advice : Principal.Advice) : String :=
  adviceMark advice.kind ++ ": " ++ advice.message

/-- Advice as a document; no advice is null. -/
def adviceDocument : Option Principal.Advice → Value
  | none => .null
  | some advice => .obj [("kind", .str advice.kind.name), ("message", .str advice.message)]

/-- Advice and verdict as one document. -/
def principalDocument (advice : Option Principal.Advice) (v : Verdict Str) : Value :=
  .obj [("suggestion", adviceDocument advice), ("verdict", verdictDocument v)]

/-- The lines about a preset. -/
def presetLines (p : Preset) : List String :=
  [s!"{p.name}: {p.description}", s!"  Effect: {p.effect} | Resource path: {p.path}",
    "  Actions: " ++ ", ".intercalate p.actions]

/-- The lines about a group of actions. -/
def actionLines (g : Catalog.ActionGroup) : List String :=
  g.title :: g.actions.map ("  " ++ ·)

end BucketAccess.CommandLine
