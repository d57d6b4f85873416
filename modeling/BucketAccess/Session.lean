/-
**A session with a generator.**

In a session a generator is asked for one thing after the other.  The policy that was made last is
the current document, on which reviews and saving work unless another document is given; before any
policy is made the current document is null.

Main definitions:

* `BucketAccess.Session.Request`, `BucketAccess.Session.Reply` — what can be asked and answered;
* `BucketAccess.Session` — the state of a session;
* `BucketAccess.Session.answer` — one request answered;
* `BucketAccess.Session.step`, `BucketAccess.Session.run` — one request, and several in a row.
-/

import BucketAccess.Generator

set_option relaxedAutoImplicit false
set_option autoImplicit false

namespace BucketAccess

open BucketAccess.Decimal (Double)

/-- The state of a session. -/
structure Session where
  /-- The files, the numbers and the log. -/
  workspace : Workspace
  /-- The document that was made last. -/
  current : Json.Value

namespace Session

/-- What can be asked. -/
inductive Request where
  /-- A new id, starting with a word that may be chosen. -/
  | sid (lead : Option String)
  | make (order : Policy.Order)
  | makePreset (bucket name : String) (condition : Option String)
  /-- A review of the document in a text, or of the current document. -/
  | review (text : Option String)
  /-- Saving the document in a text, or the current document. -/
  | save (bucket text : Option String)

/-- What can be answered. -/
inductive Reply where
  | sid (sid : String)
  | made (document : Json.Value)
  | verdict (v : Verdict Text.Str)
  | saved (path : Files.Path)

/-- The request and what it depends on: who is asked, when, how deep documents may be nested, and a
tag for new files. -/
structure Call where
  /-- The generator that is asked. -/
  generator : Generator
  /-- The time in seconds since the epoch. -/
  now : Double
  /-- How many containers inside one another can be read. -/
  nesting : Nat
  /-- A tag that makes the names of new files new. -/
  tag : String
  /-- What is asked. -/
  request : Request

/-- A session in which nothing has been asked. -/
def start (files : Files.Tree) : Session :=
  ⟨.fresh files, .null⟩

/-- The document that a request is about. -/
def documentOf (limit : Nat) (current : Json.Value) (text : Option String) : Work Json.Value :=
  match text with
  | none => pure current
  | some t => Work.ofExcept .document (Json.read limit t)

/-- One request answered. -/
def answer (current : Json.Value) (call : Call) : Work Reply :=
  let g := call.generator
  match call.request with
  | .sid lead => return .sid (← Generator.newSid (lead.getD Sid.defaultLead) call.now)
  | .make order => return .made (← g.make call.nesting call.now order).document
  | .makePreset bucket name condition =>
      return .made (← g.makePreset call.nesting call.now bucket name condition).document
  | .review text => do
      let document ← documentOf call.nesting current text
      return .verdict (← g.review document)
  | .save bucket text => do
      let document ← documentOf call.nesting current text
      return .saved (← g.save call.tag document bucket)

/-- The current document after a request: a policy that has just been made, or the same as
before. -/
def currentAfter (current : Json.Value) : Except Failure Reply → Json.Value
  | .ok (.made document) => document
  | _ => current

/-- One request: the answer or the failure, and the session after it. -/
def step (s : Session) (call : Call) : Except Failure Reply × Session :=
  let (result, workspace) := (answer s.current call).runIn s.workspace
  (result, ⟨workspace, currentAfter s.current result⟩)

/-- Several requests in a row. -/
def run (s : Session) : List Call → List (Except Failure Reply) × Session
  | [] => ([], s)
  | call :: rest =>
      let (result, after) := s.step call
      let (results, last) := after.run rest
      (result :: results, last)

end Session

end BucketAccess
