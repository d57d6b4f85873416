/-
**The grammar of principals.**

The principals that may stand in a policy are described here on their own, without the review that
tells their shapes apart: nothing at all, everyone, the canonical id of an account, the name of a
service, the number of an account, and the resource names of the own partition and of the others.
A text that holds the domain of services is either the name of one or no principal at all, so the
resource names are those that do not hold it.

Main definitions:

* `BucketAccess.Principal.IsService`, `BucketAccess.Principal.HoldsDomain` — the names of services,
  and the texts with their domain in them;
* `BucketAccess.Principal.IsOwnName`, `BucketAccess.Principal.IsForeignName` — the fields of a
  resource name of the own partition, and of another one;
* `BucketAccess.Principal.IsPrincipal` — **the principals**.
-/

import BucketAccess.Proofs.Arn

set_option relaxedAutoImplicit false
set_option autoImplicit false

namespace BucketAccess.Principal

open BucketAccess.Text

/-- The name of a service: a name and a domain of services. -/
def IsService (s : List Char) : Prop :=
  ∃ name, (s = name ++ ".amazonaws.com".toList ∨ s = name ++ ".amazon.com".toList) ∧
    name ≠ [] ∧ ∀ c ∈ name, isToken c = true

/-- A text with the domain of services in it. -/
def HoldsDomain (s : List Char) : Prop :=
  ".amazonaws.com".toList <:+: s ∨ ".amazon.com".toList <:+: s

/-- The fields of a resource name of the own partition: an identity of some account, with a type
and a name.  The region may be anything. -/
structure IsOwnName (arn : Arn) : Prop where
  partition : arn.partition = "ipcld".toList
  service : arn.service = "iam".toList
  account : arn.account ≠ []
  resource : '/' ∈ arn.resource

/-- The fields of a resource name of another partition.  Only an identity needs an account, and a
type and a name unless it is the whole account. -/
structure IsForeignName (arn : Arn) : Prop where
  wellFormed : arn.WellFormed
  identity : arn.service = "iam".toList →
    arn.account ≠ [] ∧ (arn.resource = "root".toList ∨ '/' ∈ arn.resource)

/-- **The principals.** -/
inductive IsPrincipal (s : List Char) : Prop where
  | nothing (empty : s = [])
  | everyone (star : s = ['*'])
  /-- The canonical id of an account: 64 lower-case hexadecimal digits. -/
  | canonicalId (length : s.length = 64) (digits : ∀ c ∈ s, isLowerHex c = true)
  | service (name : IsService s)
  | account (number : Arn.IsAccount s)
  | own {arn : Arn} (plain : ¬ HoldsDomain s) (spells : Arn.Spells s arn) (fields : IsOwnName arn)
  | foreign {arn : Arn} (plain : ¬ HoldsDomain s) (spells : Arn.Spells s arn)
      (fields : IsForeignName arn)

end BucketAccess.Principal
