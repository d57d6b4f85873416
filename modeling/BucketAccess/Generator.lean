/-
**The policy generator.**

A generator makes policies to order or from presets, reviews documents and saves them, and keeps a
log of what it does.  Every policy that is made takes the number of an id first, so a number that
belongs to a refused order is not used again.

Main definitions:

* `BucketAccess.Generator` — the choices of a generator;
* `BucketAccess.Generator.newSid`, `BucketAccess.Generator.givenOrNewSid` — a new id, and an id that
  may be given;
* `BucketAccess.Generator.assemble` — making a policy with a given id;
* `BucketAccess.Generator.make`, `BucketAccess.Generator.makePreset` — making a policy;
* `BucketAccess.Generator.review` — reviewing a document;
* `BucketAccess.Generator.save` — saving a document.
-/

import BucketAccess.Policy.Review
import BucketAccess.Saving

set_option relaxedAutoImplicit false
set_option autoImplicit false

namespace BucketAccess

open BucketAccess.Decimal (Double)
open BucketAccess.Policy (Draft Order)
open BucketAccess.Text (Str)

/-- The choices of a generator. -/
structure Generator where
  /-- The word that ids start with. -/
  sidLead : String
  /-- The directory for saved policies. -/
  outputDir : Files.Path
  /-- Whether reviews look into principals. -/
  inside : Bool

namespace Generator

/-- The directory that is chosen by a text; an empty text chooses none. -/
def chosenDir (given : Option String) (default : Files.Path) : Files.Path :=
  match given with
  | none => default
  | some text => if text.isEmpty then default else .ofText text.toList

/-- The directory for saved policies when none is chosen. -/
def defaultDir : Files.Path :=
  .ofText Settings.defaultOutputDir.toList

/-- A new id that starts with a word.  Without a time no number is taken. -/
def newSid (lead : String) (now : Double) : Work String := do
  match Sid.millis? now with
  | some millis => return Sid.text lead millis (← Work.takeNumber)
  | none => throw .endlessTime

/-- An id that is given, unless it is empty, and otherwise a new one with the default word. -/
def givenOrNewSid (given : Option String) (now : Double) : Work String :=
  match given.filter (!·.isEmpty) with
  | some sid => pure sid
  | none => newSid Sid.defaultLead now

/-- Makes a policy with an id that may be given.  No new id is spent on actions that are refused,
and the log is not told.  The condition is read as deep as `limit` allows. -/
def assemble (limit : Nat) (given : Option String) (now : Double) (order : Order) :
    Work Draft := do
  Work.ofExcept .draft (Draft.checkActions order.actions)
  let sid ← givenOrNewSid given now
  Work.ofExcept .draft (Draft.ofOrder limit sid order)

/-- How an effect is told in the log. -/
def shownEffect (effect : Option String) : String :=
  effect.getD "None"

/-- How the resources of a policy are told in the log. -/
def shownResources : List String → String
  | [resource] => resource
  | resources => Text.bracketed (resources.map Str.ofString)

/-- Makes a policy to order, its condition read as deep as `limit` allows. -/
def make (g : Generator) (limit : Nat) (now : Double) (order : Order) : Work Draft := do
  -- the number is taken even if the order is refused
  let sid ← newSid g.sidLead now
  let draft ← Work.ofExcept .draft (Draft.ofOrder limit sid order)
  let count := order.actions.length
  Work.record .info
    s!"Generated {shownEffect order.effect} policy for {order.bucket} with {count} action(s)"
  Work.record .debug s!"Resources: {shownResources draft.resources}"
  return draft

/-- The preset of a name, or a failure. -/
def preset (name : String) : Work Preset :=
  match Preset.find? name with
  | some p => pure p
  | none => throw (.preset name)

/-- Makes a policy from a preset. -/
def makePreset (g : Generator) (limit : Nat) (now : Double) (bucket name : String)
    (condition : Option String) : Work Draft := do
  let p ← preset name
  Work.record .info s!"Using template {p.name}: {p.description}"
  g.make limit now ⟨bucket, some p.effect, p.actions.map .named, some p.path, condition⟩

/-- What the log tells about a review; a document that is no object is not worth telling. -/
def reviewText (document : Json.Value) (v : Verdict Str) : Option String :=
  match document with
  | .obj _ =>
      some (s!"Policy validation finished: {v.errors.length} errors, " ++
        s!"{v.warnings.length} warnings")
  | _ => none

/-- Reviews a document, looking into principals or not. -/
def reviewDocument (inside : Bool) (document : Json.Value) : Work (Verdict Str) := do
  let v := Policy.review inside document
  if let some text := reviewText document v then
    Work.record .debug text
  return v

/-- Reviews a document. -/
def review (g : Generator) (document : Json.Value) : Work (Verdict Str) :=
  reviewDocument g.inside document

/-- Saves a document in the file for a bucket. -/
def save (g : Generator) (tag : String) (document : Json.Value) (bucket : Option String) :
    Work Files.Path := do
  let path ← Saving.save g.outputDir tag document bucket
  Work.record .info s!"Saved policy to: {path.toString}"
  return path

end Generator

end BucketAccess
