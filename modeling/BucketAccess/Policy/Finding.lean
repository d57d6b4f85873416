/-
**Findings about a policy.**

A finding says what is the matter and where: at the policy as a whole, or at a part of it that is
reached by members and positions.  Statements come first on every way into a policy, so a finding
about a part names its statement.

Main definitions:

* `BucketAccess.Policy.Step`, `BucketAccess.Policy.Place.text` — a way into a policy and how it is
  written;
* `BucketAccess.Policy.Problem` — what can be the matter, its severity and wording;
* `BucketAccess.Policy.Finding` — a problem and its place, and `Finding.message`.
-/

import BucketAccess.Catalog.Documents
import BucketAccess.Catalog.Identities
import BucketAccess.Text.Str
import BucketAccess.Verdict

set_option relaxedAutoImplicit false
set_option autoImplicit false

namespace BucketAccess.Policy

open BucketAccess.Text (Str)

/-! ### Places -/

/-- One step on the way into a policy. -/
inductive Step where
  /-- To a member of an object. -/
  | member (name : Str)
  /-- To an element of an array. -/
  | index (i : Nat)
  deriving DecidableEq

/-- How a step is written behind other steps. -/
def Step.text : Step → Str
  | .member name => "." ++ name
  | .index i => s!"[{i}]"

/-- How a way into a policy is written; the first step is a member and is written without a
period. -/
def Place.text : List Step → Str
  | .member name :: rest => name ++ Str.join (rest.map Step.text)
  | steps => Str.join (steps.map Step.text)

/-! ### Problems -/

/-- What can be the matter with a policy or a part of it. -/
inductive Problem where
  | noPolicy
  | versionMissing
  | versionNotString
  | versionUnknown (version : Str)
  | versionLegacy
  | statementsMissing
  | statementsNotArray
  | statementsEmpty
  | unknownRootField (name : Str)
  | idNotString
  | notObject
  | notString
  | empty
  | sidNotString
  | sidCharacters
  | effectMissing
  | effectUnknown (shown : Str)
  /-- A field about principals, which the cloud does not look at. -/
  | principalIgnored (field : String)
  | fieldMissing (field negated : String)
  | fieldTwice (field negated : String)
  | actionForm (action : Str)
  | actionForeign (action : Str)
  | actionUnknown (action : Str)
  | resourceForm
  | resourceNoBucket
  | resourceDoubleSlash
  | resourceNameLong
  | resourceNameUnusual
  | operatorUnknown (operator : Str)
  | principalEveryone
  | principalString
  | principalForm
  | principalTypeUnknown (type : Str)
  | awsEveryone
  | awsForm (text : Str)
  | awsAccount
  | serviceUnusual
  | unknownField (name : Str)
  deriving DecidableEq

/-- Whether a problem stands in the way of acceptance. -/
def Problem.severity : Problem → Severity
  | .versionLegacy | .unknownRootField _ | .principalIgnored _ | .actionForeign _
  | .actionUnknown _ | .resourceNameUnusual | .principalEveryone | .awsEveryone | .awsAccount
  | .serviceUnusual | .unknownField _ => .warning
  | .noPolicy | .versionMissing | .versionNotString | .versionUnknown _ | .statementsMissing
  | .statementsNotArray | .statementsEmpty | .idNotString | .notObject | .notString | .empty
  | .sidNotString | .sidCharacters | .effectMissing | .effectUnknown _ | .fieldMissing _ _
  | .fieldTwice _ _ | .actionForm _ | .resourceForm | .resourceNoBucket | .resourceDoubleSlash
  | .resourceNameLong | .operatorUnknown _ | .principalString | .principalForm
  | .principalTypeUnknown _ | .awsForm _ => .error

/-- The wording of a problem. -/
def Problem.text : Problem → Str
  | .noPolicy => "Policy must be a JSON object"
  | .versionMissing => "Missing required field: Version"
  | .versionNotString => "Version must be a string"
  | .versionUnknown version =>
      "Invalid Version: \"" ++ version ++ "\". Must be \"2012-10-17\" or \"2008-10-17\""
  | .versionLegacy => "Version \"2008-10-17\" is deprecated. Use \"2012-10-17\""
  | .statementsMissing => "Missing required field: Statement"
  | .statementsNotArray => "Statement must be an array"
  | .statementsEmpty => "Statement array cannot be empty"
  | .unknownRootField name => "Unknown root-level field: \"" ++ name ++ "\""
  | .idNotString => "Id field must be a string"
  | .notObject => "Must be an object"
  | .notString => "Must be a string"
  | .empty => "Cannot be empty"
  | .sidNotString => "Sid must be a string"
  | .sidCharacters => "Sid must contain only alphanumeric characters"
  | .effectMissing => "Missing required field \"Effect\""
  | .effectUnknown shown => "Effect must be \"Allow\" or \"Deny\", got \"" ++ shown ++ "\""
  | .principalIgnored field =>
      s!"{field} field is not supported by {Catalog.ownCloud} and will be ignored"
  | .fieldMissing field negated => s!"Missing \"{field}\" or \"{negated}\""
  | .fieldTwice field negated => s!"Cannot have both \"{field}\" and \"{negated}\""
  | .actionForm action => "Invalid format \"" ++ action ++ "\". Must be \"service:action\""
  | .actionForeign action => "\"" ++ action ++ "\" is not an S3 action"
  | .actionUnknown action => "\"" ++ action ++ "\" may not be a valid S3 action"
  | .resourceForm => "Must be a valid S3 ARN (arn:aws:s3:::...) or \"*\""
  | .resourceNoBucket => "Missing bucket name in ARN"
  | .resourceDoubleSlash => "Invalid path - contains double slashes"
  | .resourceNameLong => "Bucket name too long (max 63 characters)"
  | .resourceNameUnusual => "Bucket name may not follow S3 naming rules"
  | .operatorUnknown operator => "Unknown condition operator \"" ++ operator ++ "\""
  | .principalEveryone =>
      "Using wildcard (*) grants public access - ensure this is intentional"
  | .principalString =>
      "String principals other than \"*\" are not valid. Use \x7b\"AWS\": \"...\"\x7d format"
  | .principalForm => "Must be \"*\" or an object"
  | .principalTypeUnknown type =>
      "Unknown principal type \"" ++ type ++ "\". Valid types: " ++
        ", ".intercalate Catalog.principalTypes
  | .awsEveryone => "Using \"*\" grants public access"
  | .awsForm text => "Invalid ARN format \"" ++ text ++ "\""
  | .awsAccount => "Account ID should be 12 digits"
  | .serviceUnusual => "Service principal should typically end with .amazonaws.com"
  | .unknownField name => "Unknown field \"" ++ name ++ "\""

/-! ### Findings -/

/-- A problem and where it is. -/
structure Finding where
  /-- The way to the part of the policy that the problem is about. -/
  place : List Step
  /-- What is the matter. -/
  problem : Problem
  deriving DecidableEq

/-- Whether a finding stands in the way of acceptance. -/
def Finding.severity (f : Finding) : Severity :=
  f.problem.severity

/-- How a finding is told: the place, unless it is the policy as a whole, and the problem. -/
def Finding.message (f : Finding) : Str :=
  match f.place with
  | [] => f.problem.text
  | place => Place.text place ++ ": " ++ f.problem.text

/-- The verdict of a list of findings. -/
def verdict (findings : List Finding) : Verdict Str :=
  .ofFindings Finding.severity Finding.message findings

end BucketAccess.Policy
