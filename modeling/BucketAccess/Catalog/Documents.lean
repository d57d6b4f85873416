/-
**The words of policy documents.**

The fields of a policy and of its statements, the versions of the policy language, the two effects
and the kinds of principals are fixed lists.

Main definitions:

* `BucketAccess.Catalog.currentVersion`, `BucketAccess.Catalog.legacyVersion`,
  `BucketAccess.Catalog.versions` — the versions of the policy language;
* `BucketAccess.Catalog.effects` — what a statement does;
* `BucketAccess.Catalog.rootFields`, `BucketAccess.Catalog.statementFields` — the fields;
* `BucketAccess.Catalog.principalTypes` — the kinds of principals.
-/

set_option relaxedAutoImplicit false
set_option autoImplicit false

namespace BucketAccess.Catalog

/-- The version of the policy language that new policies state. -/
def currentVersion : String := "2012-10-17"

/-- The version that is still accepted. -/
def legacyVersion : String := "2008-10-17"

/-- The versions that are accepted. -/
def versions : List String :=
  [currentVersion, legacyVersion]

/-- What a statement does. -/
def effects : List String :=
  ["Allow", "Deny"]

/-- The fields of a policy. -/
def rootFields : List String :=
  ["Version", "Id", "Statement"]

/-- The fields of a statement. -/
def statementFields : List String :=
  ["Sid", "Effect", "Principal", "NotPrincipal", "Action", "NotAction", "Resource", "NotResource",
    "Condition"]

/-- The kinds of principals. -/
def principalTypes : List String :=
  ["AWS", "Service", "Federated", "CanonicalUser"]

end BucketAccess.Catalog
