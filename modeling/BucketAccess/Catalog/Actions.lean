/-
**The actions of the storage service.**

Actions are named by the service and what is done, with a colon between them.  The known actions are
grouped the way people choose them from a list.  An action outside the list may be right all the
same, so the list is the ground for warnings only.

Main definitions:

* `BucketAccess.Catalog.actionGroups` — the known actions by group, in order;
* `BucketAccess.Catalog.everyAction` — the action that stands for all of them;
* `BucketAccess.Catalog.isKnownAction` — whether an action is known.
-/

import BucketAccess.Text.Str

set_option relaxedAutoImplicit false
set_option autoImplicit false

namespace BucketAccess.Catalog

/-- A group of actions. -/
structure ActionGroup where
  /-- What the group is called. -/
  title : String
  /-- The actions of the group, in order. -/
  actions : List String

/-- The actions on objects themselves. -/
def objectActions : List String :=
  ["s3:GetObject", "s3:PutObject", "s3:DeleteObject", "s3:GetObjectAttributes", "s3:GetObjectAcl",
    "s3:PutObjectAcl", "s3:GetObjectTorrent", "s3:RestoreObject"]

/-- The actions on buckets and their settings. -/
def bucketActions : List String :=
  ["s3:ListBucket", "s3:GetBucketLocation", "s3:GetBucketAcl", "s3:PutBucketAcl",
    "s3:GetBucketLogging", "s3:PutBucketLogging", "s3:GetBucketNotification",
    "s3:PutBucketNotification", "s3:GetBucketRequestPayment", "s3:PutBucketRequestPayment",
    "s3:GetBucketWebsite", "s3:PutBucketWebsite", "s3:DeleteBucketWebsite",
    "s3:GetBucketPublicAccessBlock", "s3:PutBucketPublicAccessBlock"]

/-- The actions on bucket policies and sharing rules. -/
def policyActions : List String :=
  ["s3:GetBucketPolicy", "s3:PutBucketPolicy", "s3:DeleteBucketPolicy", "s3:GetBucketCORS",
    "s3:PutBucketCORS", "s3:DeleteBucketCORS"]

/-- The actions on versions. -/
def versioningActions : List String :=
  ["s3:GetBucketVersioning", "s3:PutBucketVersioning", "s3:ListBucketVersions",
    "s3:GetObjectVersion", "s3:DeleteObjectVersion", "s3:GetObjectVersionAcl",
    "s3:PutObjectVersionAcl", "s3:GetObjectVersionAttributes", "s3:GetObjectVersionTorrent"]

/-- The actions on locks and retention. -/
def retentionActions : List String :=
  ["s3:GetBucketObjectLockConfiguration", "s3:PutBucketObjectLockConfiguration",
    "s3:GetObjectLockConfiguration", "s3:PutObjectLockConfiguration", "s3:GetObjectLegalHold",
    "s3:PutObjectLegalHold", "s3:GetObjectRetention", "s3:PutObjectRetention",
    "s3:BypassGovernanceRetention"]

/-- The actions on tags. -/
def taggingActions : List String :=
  ["s3:GetObjectTagging", "s3:PutObjectTagging", "s3:DeleteObjectTagging",
    "s3:GetObjectVersionTagging", "s3:PutObjectVersionTagging", "s3:DeleteObjectVersionTagging",
    "s3:GetBucketTagging", "s3:PutBucketTagging", "s3:DeleteBucketTagging"]

/-- The actions on uploads in parts. -/
def multipartActions : List String :=
  ["s3:ListBucketMultipartUploads", "s3:ListMultipartUploadParts", "s3:AbortMultipartUpload"]

/-- The actions on replication, acceleration and encryption. -/
def replicationActions : List String :=
  ["s3:GetReplicationConfiguration", "s3:PutReplicationConfiguration",
    "s3:GetAccelerateConfiguration", "s3:PutAccelerateConfiguration",
    "s3:GetEncryptionConfiguration", "s3:PutEncryptionConfiguration"]

/-- The known actions by group, in order. -/
def actionGroups : List ActionGroup :=
  [⟨"Object Operations", objectActions⟩,
    ⟨"Bucket Operations", bucketActions⟩,
    ⟨"Bucket Policy & CORS", policyActions⟩,
    ⟨"Object Versioning", versioningActions⟩,
    ⟨"Object Lock & Retention", retentionActions⟩,
    ⟨"Tagging", taggingActions⟩,
    ⟨"Multipart Uploads", multipartActions⟩,
    ⟨"Replication & Encryption", replicationActions⟩]

/-- The action that stands for all actions of the service. -/
def everyAction : String := "s3:*"

/-- The known actions: those of the groups and the one that stands for all. -/
def knownActions : List String :=
  everyAction :: actionGroups.flatMap ActionGroup.actions

/-- Whether an action is known. -/
def isKnownAction (action : Text.Str) : Bool :=
  action.isOneOf knownActions

end BucketAccess.Catalog
