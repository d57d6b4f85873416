/-
**The review of a policy document.**

A policy document can hold anything that JSON can, so each field is looked at for its kind, its form
and its words, and everything that is found is reported in one go.  A member that is null counts as
absent, and where a list is due a single value counts as a list of one.  Principals are not looked
at by the cloud; their inside is reviewed only on request.

Main definitions:

* `BucketAccess.Policy.present?`, `BucketAccess.Policy.entries` — the two conventions on members;
* `BucketAccess.Policy.actionFindings`, `BucketAccess.Policy.resourceFindings`,
  `BucketAccess.Policy.conditionFindings`, `BucketAccess.Policy.principalFindings` — what is found
  in a field of a statement;
* `BucketAccess.Policy.statementFindings` — what is found in a statement;
* `BucketAccess.Policy.findings` — what is found in a document;
* `BucketAccess.Policy.review` — **the verdict on a document**.
-/

import BucketAccess.Arn
import BucketAccess.Bucket.Name
import BucketAccess.Catalog.Actions
import BucketAccess.Catalog.Conditions
import BucketAccess.Json.Display
import BucketAccess.Policy.Finding

set_option relaxedAutoImplicit false
set_option autoImplicit false

namespace BucketAccess.Policy

open BucketAccess.Json BucketAccess.Text

/-! ### Members and lists -/

/-- Whether a value is null. -/
def isNull : Value → Bool
  | .null => true
  | _ => false

/-- The value of a member that is there and is not null. -/
def present? (members : Members) (key : Str) : Option Value :=
  (List.lookup key members).filter fun v => !isNull v

/-- The entries of a list; a single value is a list of one. -/
def entries : Value → List Value
  | .arr items => items
  | v => [v]

/-- A problem that is reported under a condition. -/
def findingIf (condition : Bool) (place : List Step) (problem : Problem) : List Finding :=
  if condition then [⟨place, problem⟩] else []

/-- What is found in the entries of a list, each at its position. -/
def entryFindings (place : List Step) (check : List Step → Value → List Finding)
    (items : List Value) : List Finding :=
  (items.mapIdx fun i item => check (place ++ [.index i]) item).flatten

/-- What is found in a list that must not be empty. -/
def listFindings (place : List Step) (check : List Step → Value → List Finding) (v : Value) :
    List Finding :=
  if (entries v).isEmpty then [⟨place, .empty⟩] else entryFindings place check (entries v)

/-! ### Actions -/

/-- What is found in one action. -/
def actionFindings (place : List Step) : Value → List Finding
  | .str action =>
      match splitOn (':' : Point) action.toList with
      | service :: name :: _ =>
          if service ≠ ("s3" : Str).toList then [⟨place, .actionForeign action⟩]
          else
            findingIf (!Catalog.isKnownAction action && !name.contains '*') place
              (.actionUnknown action)
      | _ => [⟨place, .actionForm action⟩]
  | _ => [⟨place, .notString⟩]

/-! ### Resources -/

/-- Whether the name of a bucket in a resource follows the rules for names, in short: characters of
a name, and at least two of them at the ends. -/
def isUsualBucketName (name : List Point) : Bool :=
  2 ≤ name.length && name.all (Point.isIn Bucket.isNameChar) &&
    name.head?.any (Point.isIn Bucket.isEdge) && name.getLast?.any (Point.isIn Bucket.isEdge)

/-- What is found in what follows the start of a resource. -/
def bucketFindings (place : List Step) (rest : List Point) : List Finding :=
  if rest.isEmpty then [⟨place, .resourceNoBucket⟩]
  -- with a path behind it the name of the bucket is not looked at
  else
    findingIf (contains [('/' : Point), '/'] rest) place .resourceDoubleSlash ++
      (if rest.contains '/' then []
      else
        findingIf (Bucket.maxLength < rest.length) place .resourceNameLong ++
          findingIf (!isUsualBucketName rest) place .resourceNameUnusual)

/-- What is found in one resource. -/
def resourceFindings (place : List Step) : Value → List Finding
  | .str resource =>
      if resource = "*" then []
      else
        match resource.dropLead? Catalog.bucketLead with
        | some rest => bucketFindings place rest.toList
        | none => [⟨place, .resourceForm⟩]
  | _ => [⟨place, .notString⟩]

/-! ### Conditions -/

/-- What is found under one operator of a condition. -/
def operatorFindings (place : List Step) (operator : Str) (block : Value) : List Finding :=
  findingIf (!Catalog.isKnownOperator operator) place (.operatorUnknown operator) ++
    match block with
    | .obj _ => []
    | _ => [⟨place ++ [.member operator], .notObject⟩]

/-- What is found in a condition. -/
def conditionFindings (place : List Step) : Value → List Finding
  | .obj operators => operators.flatMap fun (operator, block) =>
      operatorFindings place operator block
  | _ => [⟨place, .notObject⟩]

/-! ### Principals -/

/-- How the identities that may be listed start. -/
def identityLead : String := "arn:aws:iam::"

/-- Whether a field is an account. -/
def isAccountField (field : List Point) : Bool :=
  field.length == Arn.accountLength && field.all (Point.isIn isDigit)

/-- What is found in one identity. -/
def identityFindings (place : List Step) : Value → List Finding
  | .str identity =>
      if identity = "*" then [⟨place, .awsEveryone⟩]
      else
        match identity.dropLead? identityLead with
        | some rest =>
            findingIf (!isAccountField (rest.toList.takeWhile (· != ':'))) place .awsAccount
        | none => [⟨place, .awsForm identity⟩]
  | _ => [⟨place, .notString⟩]

/-- What is found in one service. -/
def serviceFindings (place : List Step) : Value → List Finding
  | .str service =>
      findingIf (!contains (".amazonaws.com" : Str).toList service.toList) place .serviceUnusual
  | _ => [⟨place, .notString⟩]

/-- What is found in the member of a principal that lists identities or services. -/
def listedFindings (place : List Step) (members : Members) (key : Str)
    (check : List Step → Value → List Finding) : List Finding :=
  match present? members key with
  | some v => entryFindings (place ++ [.member key]) check (entries v)
  | none => []

/-- What is found inside a principal. -/
def principalFindings (place : List Step) : Value → List Finding
  | .str s => if s = "*" then [⟨place, .principalEveryone⟩] else [⟨place, .principalString⟩]
  | .obj members =>
      ((Members.keys members).flatMap fun type =>
        findingIf (!type.isOneOf Catalog.principalTypes) place (.principalTypeUnknown type)) ++
      listedFindings place members "AWS" identityFindings ++
      listedFindings place members "Service" serviceFindings
  | _ => [⟨place, .principalForm⟩]

/-! ### Statements -/

/-- What is found in the id of a statement.  A null id counts as an id. -/
def sidFindings (place : List Step) (members : Members) : List Finding :=
  match List.lookup ("Sid" : Str) members with
  | none => []
  | some (.str sid) =>
      findingIf (!allNonempty (Point.isIn isAlnum) sid.toList) place .sidCharacters
  | some _ => [⟨place, .sidNotString⟩]

/-- What is found in the effect of a statement. -/
def effectFindings (place : List Step) (members : Members) : List Finding :=
  match present? members "Effect" with
  | none => [⟨place, .effectMissing⟩]
  | some (.str effect) =>
      if effect = "" then [⟨place, .effectMissing⟩]
      else findingIf (!effect.isOneOf Catalog.effects) place (.effectUnknown effect)
  | some v => [⟨place, .effectUnknown v.display⟩]

/-- What is found in a field about principals: the field itself, and on request what it holds. -/
def principalFieldFindings (inside : Bool) (place : List Step) (members : Members)
    (field : String) : List Finding :=
  match present? members field with
  | none => []
  | some v =>
      ⟨place, .principalIgnored field⟩ ::
        if inside then principalFindings (place ++ [.member field]) v else []

/-- What is found in one of two fields of which a statement has exactly one. -/
def choiceFindings (place : List Step) (members : Members) (field negated : String)
    (check : List Step → Value → List Finding) : List Finding :=
  let has := (present? members field).isSome
  let hasNegated := (present? members negated).isSome
  findingIf (!has && !hasNegated) place (.fieldMissing field negated) ++
    findingIf (has && hasNegated) place (.fieldTwice field negated) ++
    [field, negated].flatMap fun key : String =>
      match present? members key with
      | some v => listFindings (place ++ [.member key]) check v
      | none => []

/-- What is found in the condition of a statement. -/
def conditionFieldFindings (place : List Step) (members : Members) : List Finding :=
  match present? members "Condition" with
  | some v => conditionFindings (place ++ [.member "Condition"]) v
  | none => []

/-- The fields of a statement that are unknown. -/
def unknownFieldFindings (place : List Step) (members : Members) : List Finding :=
  (Members.keys members).flatMap fun key =>
    findingIf (!key.isOneOf Catalog.statementFields) place (.unknownField key)

/-- What is found in a statement. -/
def statementFindings (inside : Bool) (place : List Step) : Value → List Finding
  | .obj members =>
      sidFindings place members ++
        effectFindings place members ++
        principalFieldFindings inside place members "Principal" ++
        principalFieldFindings inside place members "NotPrincipal" ++
        choiceFindings place members "Action" "NotAction" actionFindings ++
        choiceFindings place members "Resource" "NotResource" resourceFindings ++
        conditionFieldFindings place members ++
        unknownFieldFindings place members
  | _ => [⟨place, .notObject⟩]

/-! ### Documents -/

/-- What is found in the version of a policy. -/
def versionFindings (members : Members) : List Finding :=
  match present? members "Version" with
  | none => [⟨[], .versionMissing⟩]
  | some (.str version) =>
      if version = "" then [⟨[], .versionMissing⟩]
      else if !version.isOneOf Catalog.versions then [⟨[], .versionUnknown version⟩]
      else findingIf (version = Catalog.legacyVersion) [] .versionLegacy
  | some _ => [⟨[], .versionNotString⟩]

/-- What is found in the statements of a policy. -/
def statementsFindings (inside : Bool) (members : Members) : List Finding :=
  match present? members "Statement" with
  | none => [⟨[], .statementsMissing⟩]
  | some (.arr []) => [⟨[], .statementsEmpty⟩]
  | some (.arr items) => entryFindings [.member "Statement"] (statementFindings inside) items
  | some _ => [⟨[], .statementsNotArray⟩]

/-- The fields of a policy that are unknown. -/
def unknownRootFindings (members : Members) : List Finding :=
  (Members.keys members).flatMap fun key =>
    findingIf (!key.isOneOf Catalog.rootFields) [] (.unknownRootField key)

/-- What is found in the id of a policy. -/
def idFindings (members : Members) : List Finding :=
  match present? members "Id" with
  | none | some (.str _) => []
  | some _ => [⟨[], .idNotString⟩]

/-- What is found in a document; `inside` asks for the inside of principals. -/
def findings (inside : Bool) : Value → List Finding
  | .obj members =>
      versionFindings members ++ statementsFindings inside members ++
        unknownRootFindings members ++ idFindings members
  | _ => [⟨[], .noPolicy⟩]

/-- **The verdict on a document.** -/
def review (inside : Bool) (document : Value) : Verdict Str :=
  verdict (findings inside document)

end BucketAccess.Policy
