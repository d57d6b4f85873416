/-
**The verdict on a principal.**

A principal that is finished is checked against the rules of its shape.  Resource names of the own
partition have rules of their own; those of the other partitions have to be well-formed, and then
each field is looked at.

Main definitions:

* `BucketAccess.Principal.Remark` — what can be said about a principal, its severity and wording;
* `BucketAccess.Principal.remarks` — what is said about a text, in order;
* `BucketAccess.Principal.review` — **the verdict on a principal**.
-/

import BucketAccess.Principal.Shape
import BucketAccess.Verdict

set_option relaxedAutoImplicit false
set_option autoImplicit false

namespace BucketAccess.Principal

open BucketAccess.Text

/-! ### Remarks -/

/-- What can be said about a principal. -/
inductive Remark where
  | everyone
  | canonicalId
  | serviceName
  | serviceForm
  | bareAccount
  | unrecognised
  /-- A name of the own partition with a service other than identities. -/
  | ownService
  | ownAccountMissing
  | ownResourceMissing
  | ownResourceForm
  | arnForm
  | unknownPartition (partition : String)
  | foreignService (service : String)
  | unusualService (service : String)
  | accountMissing
  | accountForm (account : String)
  | resourceMissing
  | resourceForm
  | unusualType (type : String)
  /-- An identity with a region. -/
  | identityRegion
  /-- A resource of the storage service with an account. -/
  | storageAccount
  /-- A resource of the storage service with a region. -/
  | storageRegion
  deriving DecidableEq

/-- Whether a remark stands in the way of acceptance. -/
def Remark.severity : Remark → Severity
  | .everyone | .canonicalId | .serviceName | .bareAccount | .foreignService _
  | .unusualService _ | .unusualType _ | .identityRegion | .storageAccount
  | .storageRegion => .warning
  | .serviceForm | .unrecognised | .ownService | .ownAccountMissing | .ownResourceMissing
  | .ownResourceForm | .arnForm | .unknownPartition _ | .accountMissing | .accountForm _
  | .resourceMissing | .resourceForm => .error

/-- The wording of a remark. -/
def Remark.message : Remark → String
  | .everyone => "Using \"*\" grants public access - ensure this is intentional for security"
  | .canonicalId =>
      s!"Using canonical user ID - ensure this is an {Catalog.ownCloud} canonical ID"
  | .serviceName =>
      s!"AWS service principals (*.amazonaws.com) may not be supported by {Catalog.ownCloud}. " ++
        "Use IAM user/role ARNs instead."
  | .serviceForm => "Service principal format should be: service-name.amazonaws.com"
  | .bareAccount =>
      "Using just an account ID. Consider using full ARN format: " ++
        "arn:aws:iam::123456789012:root"
  | .unrecognised =>
      "Principal must be \"*\", a valid ARN (arn:aws:... or arn:ipcld:...), canonical user ID " ++
        "(64-char hex), service principal (service.amazonaws.com), or 12-digit account ID"
  | .ownService =>
      s!"{Catalog.ownCloud} ARNs currently only support IAM service (arn:ipcld:iam::...)"
  | .ownAccountMissing =>
      s!"{Catalog.ownCloud} ARN requires a canonical ID (arn:ipcld:iam::YourCanonicalID:...)"
  | .ownResourceMissing =>
      s!"{Catalog.ownCloud} ARN requires a resource (e.g., user/username, policy/policyname)"
  | .ownResourceForm =>
      s!"{Catalog.ownCloud} resource must include type/name (e.g., user/username, " ++
        "policy/policyname)"
  | .arnForm =>
      "Invalid ARN format. Expected: arn:aws:service:region:account-id:resource " ++
        "or arn:ipcld:iam::CanonicalID:resource"
  | .unknownPartition partition =>
      s!"Invalid partition \"{partition}\". Must be: aws, aws-cn, aws-us-gov, or ipcld " ++
        s!"({Catalog.ownCloud})"
  | .foreignService service =>
      s!"Service \"{service}\" is AWS-specific and not supported by {Catalog.ownCloud}. " ++
        "Use iam, s3, or sts instead."
  | .unusualService service =>
      s!"Service \"{service}\" is unusual for S3 bucket policies. Common services: iam, s3, sts"
  | .accountMissing => "IAM ARN requires a 12-digit account ID"
  | .accountForm account => s!"Account ID must be exactly 12 digits, got: {account}"
  | .resourceMissing =>
      "IAM ARN requires a resource (e.g., user/username, role/rolename, or root)"
  | .resourceForm =>
      "IAM resource must be \"root\" or include type/name (e.g., user/username)"
  | .unusualType type =>
      s!"Resource type \"{type}\" may not be valid. Common types: user, role, root"
  | .identityRegion => "IAM ARNs typically do not specify a region"
  | .storageAccount => "S3 ARNs typically do not include account ID"
  | .storageRegion => "S3 ARNs typically do not specify a region"

/-! ### Checks -/

/-- A remark that is made under a condition. -/
def remarkIf (condition : Bool) (remark : Remark) : List Remark :=
  if condition then [remark] else []

/-- The service of identities. -/
def identityService : List Char := "iam".toList

/-- The service of storage. -/
def storageService : List Char := "s3".toList

/-- The resource that stands for a whole account. -/
def wholeAccount : List Char := "root".toList

/-- What is said about a resource name of the own partition. -/
def ownArnRemarks (arn : Arn) : List Remark :=
  remarkIf (arn.service != identityService) .ownService ++
    remarkIf arn.account.isEmpty .ownAccountMissing ++
    (if arn.resource.isEmpty then [.ownResourceMissing]
      else remarkIf (!arn.resource.contains '/') .ownResourceForm)

/-- What is said about the account of an identity. -/
def identityAccountRemarks (account : List Char) : List Remark :=
  if account.isEmpty then [.accountMissing]
  else remarkIf (!Arn.isAccount account) (.accountForm (String.ofList account))

/-- The type of a resource: what stands before its first slash. -/
def resourceType (resource : List Char) : List Char :=
  resource.takeWhile (· != '/')

/-- What is said about the resource of an identity. -/
def identityResourceRemarks (resource : List Char) : List Remark :=
  let type := String.ofList (resourceType resource)
  if resource.isEmpty then [.resourceMissing]
  else if resource = wholeAccount then []
  else if !resource.contains '/' then [.resourceForm]
  else remarkIf (!Catalog.identityTypes.contains type) (.unusualType type)

/-- What is said about the service of a resource name. -/
def serviceRemarks (service : String) : List Remark :=
  if Catalog.foreignServices.contains service then [.foreignService service]
  else remarkIf (!Catalog.identityServices.contains service) (.unusualService service)

/-- What is said about the fields of a well-formed resource name. -/
def fieldRemarks (arn : Arn) : List Remark :=
  let partition := String.ofList arn.partition
  remarkIf (!Catalog.partitions.contains partition) (.unknownPartition partition) ++
    serviceRemarks (String.ofList arn.service) ++
    (if arn.service = identityService then
      identityAccountRemarks arn.account ++ identityResourceRemarks arn.resource ++
        remarkIf (!arn.region.isEmpty) .identityRegion
    else []) ++
    (if arn.service = storageService then
      remarkIf (!arn.account.isEmpty) .storageAccount ++
        remarkIf (!arn.region.isEmpty) .storageRegion
    else [])

/-- What is said about a text that starts like a resource name. -/
def arnRemarks (s : List Char) : List Remark :=
  let arn := Arn.ofText s
  -- the own partition has no accounts of twelve digits, so its names are not scanned
  if arn.partition = Catalog.ownPartition.toList then ownArnRemarks arn
  else if (Arn.scan? s).isNone then [.arnForm]
  else fieldRemarks arn

/-- What is said about a text, in order. -/
def remarks (s : List Char) : List Remark :=
  match shape s with
  | .nothing => []
  | .everyone => [.everyone]
  | .canonicalId => [.canonicalId]
  | .service => if isServiceName s then [.serviceName] else [.serviceForm]
  | .arn => arnRemarks s
  | .account => [.bareAccount]
  | .other => [.unrecognised]

/-- **The verdict on a principal.** -/
def review (principal : String) : Verdict String :=
  .ofFindings Remark.severity Remark.message (remarks principal.toList)

end BucketAccess.Principal
