/-
**Making a policy.**

A policy is made of one statement: what it does, for which actions, on which resources, and perhaps
under a condition, which is typed as a document of its own.  A policy without actions is refused,
and so is a condition that is no document.  A condition that is nested too deep to be read is not
refused but a failure of its own, since nothing is known about its form; and so is a blank action
of which something has to be asked.

Main definitions:

* `BucketAccess.Policy.Order` — what a policy is made from;
* `BucketAccess.Policy.DraftFailure` — why no policy is made;
* `BucketAccess.Policy.Draft` — the statement of a policy that is made;
* `BucketAccess.Policy.Draft.checkActions` — which actions are refused;
* `BucketAccess.Policy.Draft.ofOrder` — **making a policy**;
* `BucketAccess.Policy.Draft.document` — the policy as a document.
-/

import BucketAccess.Catalog.Documents
import BucketAccess.Json.Document
import BucketAccess.Policy.Action
import BucketAccess.Text.Blank

set_option relaxedAutoImplicit false
set_option autoImplicit false

namespace BucketAccess.Policy

open BucketAccess.Json (Members Value)
open BucketAccess.Text (Str strip)

/-- What a policy is made from. -/
structure Order where
  /-- The name of the bucket, which is not checked here. -/
  bucket : String
  /-- What the statement does; an order may leave it open. -/
  effect : Option String := some "Allow"
  /-- The actions, in order. -/
  actions : List Action := []
  /-- The path of the objects inside the bucket. -/
  path : Option String := some everyPath
  /-- The condition as it was typed. -/
  condition : Option String := none

/-- Why no policy is made. -/
inductive DraftFailure where
  | noActions
  /-- Something has to be asked of a blank action. -/
  | blankAction
  /-- The condition is no document. -/
  | badCondition (fault : Json.Fault Json.Place)
  /-- The condition is nested too deep to be read. -/
  | deepCondition (container : Json.Container)
  deriving DecidableEq

/-- The failure of a condition. -/
def DraftFailure.ofFault : Json.Fault Json.Place → DraftFailure
  | .tooDeep container => .deepCondition container
  | fault => .badCondition fault

/-- The wording of a failure. -/
def DraftFailure.message : DraftFailure → String
  | .noActions => "Please select at least one action"
  | .blankAction => "'list' object has no attribute 'startswith'"
  | .badCondition fault => "Invalid JSON in Condition field: " ++ fault.message
  | .deepCondition container => Json.Fault.message (.tooDeep container)

/-- The statement of a policy that is made. -/
structure Draft where
  /-- The id of the statement. -/
  sid : String
  /-- What it does, if that is said. -/
  effect : Option String
  /-- The actions, in order. -/
  actions : List Action
  /-- The resources. -/
  resources : List String
  /-- The condition, if there is one. -/
  condition : Option Value

namespace Draft

/-- The path of an order; without one, or with a blank one, all objects are meant. -/
def pathOf (path : Option String) : String :=
  let given := strip (path.getD "")
  if given.isEmpty then everyPath else given

/-- The condition of an order, read as deep as may be; a blank one is none. -/
def conditionOf (limit : Nat) (typed : Option String) : Except DraftFailure (Option Value) :=
  match typed with
  | none => .ok none
  | some text =>
      if (strip text).isEmpty then .ok none
      else
        match Json.read limit text with
        | .ok v => .ok (some v)
        | .error fault => .error (.ofFault fault)

/-- Whether a policy can be made for some actions, or why not. -/
def checkActions (actions : List Action) : Except DraftFailure Unit :=
  if actions.isEmpty then .error .noActions
  else if Action.allAnswer actions then .ok ()
  else .error .blankAction

/-- **Making a policy** from an order, with a given id for the statement. -/
def ofOrder (limit : Nat) (sid : String) (order : Order) : Except DraftFailure Draft :=
  match checkActions order.actions with
  | .error failure => .error failure
  | .ok () =>
    (conditionOf limit order.condition).map fun condition =>
      { sid := sid
        effect := order.effect
        actions := order.actions
        resources :=
          Policy.resources order.bucket (Action.names order.actions) (pathOf order.path)
        condition := condition }

/-! ### Documents -/

/-- A list as it stands in a policy: one item on its own, and several as an array. -/
def collapsed : List Value → Value
  | [v] => v
  | items => .arr items

/-- The effect as it is written; one that is left open is null. -/
def writtenEffect (effect : Option String) : Value :=
  match effect with
  | some text => .str text
  | none => .null

/-- The statement as a document. -/
def statement (d : Draft) : Value :=
  .obj (([("Sid", .str d.sid), ("Effect", writtenEffect d.effect),
    ("Action", collapsed (d.actions.map Action.document)),
    ("Resource", collapsed (d.resources.map fun resource : String => .str resource))] : Members) ++
      (d.condition.map fun c => (("Condition" : Str), c)).toList)

/-- The policy as a document. -/
def document (d : Draft) : Value :=
  .obj [("Version", .str Catalog.currentVersion), ("Statement", .arr [d.statement])]

end Draft

end BucketAccess.Policy
