/-
**The operators of conditions.**

A condition compares something about a request by an operator.  Most operators have a second form
that also holds when there is nothing to compare, and every operator can be made to speak of all or
of any of several values by a qualifier in front of it.

Main definitions:

* `BucketAccess.Catalog.conditionOperators` — the operators, in both forms;
* `BucketAccess.Catalog.setQualifiers` — the qualifiers;
* `BucketAccess.Catalog.unqualified` — an operator without its qualifier;
* `BucketAccess.Catalog.isKnownOperator` — whether an operator, qualified or not, is known.
-/

import BucketAccess.Text.Split
import BucketAccess.Text.Str

set_option relaxedAutoImplicit false
set_option autoImplicit false

namespace BucketAccess.Catalog

open BucketAccess.Text

/-- Operators in both forms: as they are, and made to hold when there is nothing to compare. -/
def withOptionalForm (operators : List String) : List String :=
  operators ++ operators.map (· ++ "IfExists")

/-- The operators that have both forms. -/
def comparisons : List String :=
  ["StringEquals", "StringNotEquals", "StringLike", "StringNotLike", "StringEqualsIgnoreCase",
    "StringNotEqualsIgnoreCase", "NumericEquals", "NumericNotEquals", "NumericLessThan",
    "NumericLessThanEquals", "NumericGreaterThan", "NumericGreaterThanEquals", "DateEquals",
    "DateNotEquals", "DateLessThan", "DateLessThanEquals", "DateGreaterThan",
    "DateGreaterThanEquals", "Bool", "BinaryEquals", "IpAddress", "NotIpAddress", "ArnEquals",
    "ArnLike", "ArnNotEquals", "ArnNotLike"]

/-- The operators; the test for a missing value has one form only. -/
def conditionOperators : List String :=
  withOptionalForm comparisons ++ ["Null"]

/-- The qualifiers that make an operator speak of several values. -/
def setQualifiers : List String :=
  ["ForAllValues:", "ForAnyValue:"]

/-- An operator without its qualifier, if it has one. -/
def unqualified (operator : Str) : Str :=
  match setQualifiers.findSome? fun q => operator.dropLead? q with
  | some rest => rest
  | none => operator

/-- Whether an operator, qualified or not, is known. -/
def isKnownOperator (operator : Str) : Bool :=
  (unqualified operator).isOneOf conditionOperators

end BucketAccess.Catalog
