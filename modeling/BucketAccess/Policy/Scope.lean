/-
**The resources that actions reach.**

Some actions are about the bucket and others about the objects in it, and a policy names the
resources of both kinds that its actions need.  The kinds are told from the names of the actions.
When no action shows its kind, all objects of the bucket are named.

Main definitions:

* `BucketAccess.Policy.reachesBucket`, `BucketAccess.Policy.reachesObjects` — the kinds of actions;
* `BucketAccess.Policy.bucketResource`, `BucketAccess.Policy.objectResource` — the two resources;
* `BucketAccess.Policy.resources` — the resources of a list of actions.

Main results:

* `BucketAccess.Policy.resources_ne_nil` — there is always a resource.
-/

import BucketAccess.Catalog.Identities
import BucketAccess.Text.Split

set_option relaxedAutoImplicit false
set_option autoImplicit false

namespace BucketAccess.Policy

open BucketAccess.Text

/-- How the actions on the settings of a bucket start. -/
def bucketActionLeads : List String :=
  ["s3:GetBucket", "s3:PutBucket"]

/-- Whether an action is about the bucket itself. -/
def reachesBucket (action : String) : Bool :=
  action == "s3:ListBucket" ||
    bucketActionLeads.any fun lead => lead.toList.isPrefixOf action.toList

/-- Whether an action is about objects. -/
def reachesObjects (action : String) : Bool :=
  contains "Object".toList action.toList

/-- All paths. -/
def everyPath : String := "*"

/-- A bucket as a resource. -/
def bucketResource (bucket : String) : String :=
  Catalog.bucketLead ++ bucket

/-- The objects of a bucket under a path as a resource. -/
def objectResource (bucket path : String) : String :=
  Catalog.bucketLead ++ bucket ++ "/" ++ path

/-- The resources that the actions show they need. -/
def neededResources (bucket : String) (actions : List String) (path : String) : List String :=
  (if actions.any reachesBucket then [bucketResource bucket] else []) ++
    if actions.any reachesObjects then [objectResource bucket path] else []

/-- The resources of a list of actions. -/
def resources (bucket : String) (actions : List String) (path : String) : List String :=
  if (neededResources bucket actions path).isEmpty then [objectResource bucket everyPath]
  else neededResources bucket actions path

/-- There is always a resource. -/
theorem resources_ne_nil (bucket : String) (actions : List String) (path : String) :
    resources bucket actions path ≠ [] := by
  unfold resources
  split
  · simp
  · next h => simpa [List.isEmpty_iff] using h

end BucketAccess.Policy
