/-
**The words of resource names and identities.**

Resource names are built from fields with fixed vocabularies: the partition says whose cloud it is,
the service what kind of thing is named, and a resource starts with its type.

Main definitions:

* `BucketAccess.Catalog.ownCloud`, `BucketAccess.Catalog.ownPartition` — the cloud that policies are
  made for, and its partition;
* `BucketAccess.Catalog.partitions` — the partitions of the other cloud;
* `BucketAccess.Catalog.identityServices`, `BucketAccess.Catalog.foreignServices` — the services
  that occur in principals, and those that only the other cloud has;
* `BucketAccess.Catalog.identityTypes` — the types of identities;
* `BucketAccess.Catalog.bucketLead` — how the name of a bucket as a resource starts.
-/

set_option relaxedAutoImplicit false
set_option autoImplicit false

namespace BucketAccess.Catalog

/-- The cloud that policies are made for. -/
def ownCloud : String := "Impossible Cloud"

/-- The partition of identities of that cloud. -/
def ownPartition : String := "ipcld"

/-- The partitions of the cloud whose formats are followed. -/
def partitions : List String :=
  ["aws", "aws-cn", "aws-us-gov"]

/-- The services that occur in principals. -/
def identityServices : List String :=
  ["iam", "s3", "sts"]

/-- The services that only the other cloud has. -/
def foreignServices : List String :=
  ["ec2", "lambda", "cloudfront", "elasticloadbalancing", "rds", "dynamodb"]

/-- The types of identities. -/
def identityTypes : List String :=
  ["user", "role", "group", "instance-profile", "federated-user", "assumed-role"]

/-- How the name of a bucket as a resource starts. -/
def bucketLead : String := "arn:aws:s3:::"

end BucketAccess.Catalog
