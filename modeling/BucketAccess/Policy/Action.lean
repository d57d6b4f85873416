/-
**The actions of an order.**

An order lists its actions by name, and an entry of the list may be left blank.  A blank entry
names no action, so it is written as an empty list, and nothing can be asked of it.  Whether a
policy is about the bucket itself is asked of the entries in turn until one of them says so; a blank
entry does no harm behind one that does, and stands in the way before.

Main definitions:

* `BucketAccess.Policy.Action` — an entry of the list;
* `BucketAccess.Policy.Action.name?`, `BucketAccess.Policy.Action.names` — the name of an entry,
  and the names in a list;
* `BucketAccess.Policy.Action.document` — an entry as it is written;
* `BucketAccess.Policy.Action.allAnswer` — whether the question can be put to a list.

Main results:

* `BucketAccess.Policy.Action.names_named`, `BucketAccess.Policy.Action.allAnswer_named` — a list
  without blank entries keeps its names, and the question can be put to it.
-/

import BucketAccess.Json.Value
import BucketAccess.Policy.Scope

set_option relaxedAutoImplicit false
set_option autoImplicit false

namespace BucketAccess.Policy

/-- An entry of a list of actions. -/
inductive Action where
  /-- An action by its name. -/
  | named (name : String)
  /-- An entry that was left blank. -/
  | blank
  deriving DecidableEq

namespace Action

/-- The name of an entry, if it has one. -/
def name? : Action → Option String
  | .named name => some name
  | .blank => none

/-- The names in a list. -/
def names (actions : List Action) : List String :=
  actions.filterMap name?

/-- An entry as it is written. -/
def document : Action → Json.Value
  | .named name => .str name
  | .blank => .arr []

/-- Whether every entry has a name, up to the first one that is about the bucket itself. -/
def allAnswer : List Action → Bool
  | [] => true
  | .blank :: _ => false
  | .named name :: rest => reachesBucket name || allAnswer rest

/-- A list without blank entries keeps its names. -/
@[simp] theorem names_named (actions : List String) : names (actions.map .named) = actions := by
  induction actions with
  | nil => rfl
  | cons a rest ih =>
      simp only [names] at ih
      simp [names, name?, ih]

/-- The question can be put to a list without blank entries. -/
@[simp] theorem allAnswer_named (actions : List String) :
    allAnswer (actions.map .named) = true := by
  induction actions with
  | nil => rfl
  | cons a rest ih => simp [allAnswer, ih]

end Action

end BucketAccess.Policy
