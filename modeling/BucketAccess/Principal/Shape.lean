/-
**The shapes of principals.**

A principal says who a statement is about.  It is given in one of several shapes, which are told
apart in a fixed order: nothing at all, everyone, the canonical id of an account, the name of a
service, a resource name, or the number of an account.

Main definitions:

* `BucketAccess.Principal.Shape` — the shapes;
* `BucketAccess.Principal.shape` — the shape of a text;
* `BucketAccess.Principal.isServiceName` — whether a text is the name of a service.
-/

import BucketAccess.Arn

set_option relaxedAutoImplicit false
set_option autoImplicit false

namespace BucketAccess.Principal

open BucketAccess.Text

/-- The shapes of principals. -/
inductive Shape where
  /-- Nothing; the field is optional. -/
  | nothing
  /-- Access for everyone. -/
  | everyone
  /-- The canonical id of an account. -/
  | canonicalId
  /-- A text that holds the domain of service names. -/
  | service
  /-- A text that starts like a resource name. -/
  | arn
  /-- The number of an account. -/
  | account
  /-- Anything else. -/
  | other
  deriving DecidableEq

/-- The ends of service names. -/
def serviceDomains : List (List Char) :=
  [".amazonaws.com".toList, ".amazon.com".toList]

/-- Whether the domain of service names occurs in a text. -/
def holdsServiceDomain (s : List Char) : Bool :=
  serviceDomains.any (contains · s)

/-- Whether a text is the name of a service: a name and one of the domains. -/
def isServiceName (s : List Char) : Bool :=
  !(s.takeWhile isToken).isEmpty && serviceDomains.contains (s.dropWhile isToken)

/-- The number of digits of a canonical id. -/
def canonicalIdLength : Nat := 64

/-- Whether a text is a canonical id. -/
def isCanonicalId (s : List Char) : Bool :=
  s.length == canonicalIdLength && s.all isLowerHex

/-- The shape of a text: the first that fits. -/
def shape (s : List Char) : Shape :=
  if s.isEmpty then .nothing
  else if s = ['*'] then .everyone
  else if isCanonicalId s then .canonicalId
  else if holdsServiceDomain s then .service
  else if Arn.lead.isPrefixOf s then .arn
  else if Arn.isAccount s then .account
  else .other

end BucketAccess.Principal
