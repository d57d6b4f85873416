/-
**Advice while a principal is typed.**

While somebody types a principal, the part typed so far suggests what may come next.  A resource
name is typed field by field; the number of colons tells which field is being typed, and a field
that has just been opened gets other advice than one that has been begun.  Advice speaks about one
field only, so a word of success is held back when the whole text would not be accepted.

Main definitions:

* `BucketAccess.Principal.Advice` — a piece of advice and its kind;
* `BucketAccess.Principal.Slot` — the fields that can be typed, and `Slot.ofFieldCount`;
* `BucketAccess.Principal.Cursor` — what advice on a field may depend on;
* `BucketAccess.Principal.arnAdvice` — advice on a resource name;
* `BucketAccess.Principal.advise` — **the advice on what has been typed so far**.
-/

import BucketAccess.Principal.Review

set_option relaxedAutoImplicit false
set_option autoImplicit false

namespace BucketAccess.Principal

open BucketAccess.Text

/-! ### Kinds of advice -/

/-- The kinds of advice. -/
inductive Advice.Kind where
  | hint
  | warning
  | error
  | success
  deriving DecidableEq

/-- The name of a kind. -/
def Advice.Kind.name : Advice.Kind → String
  | .hint => "hint"
  | .warning => "warning"
  | .error => "error"
  | .success => "success"

/-- A piece of advice. -/
structure Advice where
  /-- What kind of advice it is. -/
  kind : Advice.Kind
  /-- Its wording. -/
  message : String
  deriving DecidableEq

/-- Whether something typed so far can be completed to one of the candidates. -/
def completes (token : List Char) (candidates : List String) : Bool :=
  candidates.any fun c => token.isPrefixOf c.toList

/-! ### Fields -/

/-- The fields of a resource name that can be typed. -/
inductive Slot where
  | partition
  | service
  | region
  | account
  | resource
  deriving DecidableEq

/-- The field that is being typed when a text has so many fields, the leading word included. -/
def Slot.ofFieldCount (n : Nat) : Slot :=
  match n with
  | 0 | 1 | 2 => .partition
  | 3 => .service
  | 4 => .region
  | 5 => .account
  | _ => .resource

/-- What advice on a field may depend on. -/
structure Cursor where
  /-- The partition. -/
  partition : List Char
  /-- The service, empty while it has not been reached. -/
  service : List Char
  /-- The account, empty while it has not been reached. -/
  account : List Char
  /-- What has been typed of the field. -/
  token : List Char

/-- Whether the resource name belongs to the own partition. -/
def Cursor.isOwn (cur : Cursor) : Bool :=
  cur.partition = Catalog.ownPartition.toList

/-! ### Partition -/

/-- Advice on the partition. -/
def partitionAdvice (cur : Cursor) : Option Advice :=
  let token := String.ofList cur.token
  if cur.token.isEmpty then
    some ⟨.hint, "Next: partition -> `arn:aws:` for AWS, `arn:ipcld:` for " ++ Catalog.ownCloud⟩
  else if token = Catalog.ownPartition then
    some ⟨.hint, s!"Good! {Catalog.ownCloud} ARN. Now add service: `arn:ipcld:iam:`"⟩
  else if completes cur.token [Catalog.ownPartition] then
    some ⟨.hint, s!"Continue: `ipcld` for {Catalog.ownCloud} or `aws` for AWS"⟩
  else if Catalog.partitions.contains token then
    some ⟨.hint, s!"Good! Now add colon and service: `arn:{token}:`"⟩
  else if completes cur.token Catalog.partitions then
    some ⟨.hint, "Continue: `aws`, `aws-cn`, or `aws-us-gov`"⟩
  else none

/-! ### Service -/

/-- Advice on the service of a name of the own partition. -/
def ownServiceAdvice (token : List Char) : Advice :=
  if token.isEmpty then
    ⟨.hint, s!"Next: service -> `iam` ({Catalog.ownCloud} only supports IAM currently)"⟩
  else if token = identityService then
    ⟨.hint, "Good! Now add `:` then region (leave empty): `arn:ipcld:iam:`"⟩
  else if token.isPrefixOf identityService then ⟨.hint, "Continue: `iam`"⟩
  else ⟨.error, s!"{Catalog.ownCloud} only supports the `iam` service"⟩

/-- Advice on the service of another name. -/
def foreignServiceAdvice (partition token : List Char) : Option Advice :=
  let partition := String.ofList partition
  let service := String.ofList token
  if token.isEmpty then some ⟨.hint, "Next: service -> `iam`, `s3`, or `sts` then `:`"⟩
  else if Catalog.identityServices.contains service then
    some ⟨.hint, s!"Good! Now add colon and region: `arn:{partition}:{service}:` (usually empty " ++
      "for IAM/S3)"⟩
  else if Catalog.foreignServices.contains service then
    some ⟨.warning, s!"`{service}` is AWS-specific and not supported by {Catalog.ownCloud}. Use " ++
      "`iam`, `s3`, or `sts`"⟩
  else if completes token Catalog.identityServices then
    some ⟨.hint, "Common services: `iam`, `s3`, `sts`"⟩
  else none

/-- Advice on the service. -/
def serviceAdvice (cur : Cursor) : Option Advice :=
  if cur.isOwn then some (ownServiceAdvice cur.token)
  else foreignServiceAdvice cur.partition cur.token

/-! ### Region -/

/-- Advice on the region. -/
def regionAdvice (cur : Cursor) : Advice :=
  match cur.isOwn, cur.token.isEmpty with
  | true, true =>
      ⟨.hint, s!"Next: region (leave empty for {Catalog.ownCloud}) -> `:` then canonical ID"⟩
  | false, true => ⟨.hint, "Next: region (usually empty for IAM/S3) -> `:` then account ID"⟩
  | true, false =>
      ⟨.hint, s!"{Catalog.ownCloud} ARNs leave region empty. Add `:` for canonical ID"⟩
  | false, false => ⟨.hint, "Most IAM/S3 ARNs leave region empty. Add `:` for account ID"⟩

/-! ### Account -/

/-- Advice on an account that has been begun. -/
def accountProgress (account : List Char) : Advice :=
  if !allNonempty isDigit account then ⟨.error, "Account ID must contain only digits"⟩
  else if account.length < Arn.accountLength then
    let missing := Arn.accountLength - account.length
    ⟨.hint, s!"Account ID: {account.length}/12 digits ({missing} more needed)"⟩
  else if Arn.accountLength < account.length then
    ⟨.error, "Account ID must be exactly 12 digits"⟩
  else ⟨.hint, "Perfect! Now add `:` and resource (e.g., `user/username` or `root`)"⟩

/-- Advice on the account. -/
def accountAdvice (cur : Cursor) : Advice :=
  match cur.isOwn, cur.token.isEmpty with
  | true, true =>
      ⟨.hint, s!"Next: Your {Catalog.ownCloud} canonical ID (alphanumeric string) then `:`"⟩
  | false, true => ⟨.hint, "Next: 12-digit account ID -> `123456789012` then `:`"⟩
  | true, false => ⟨.hint, "Continue entering canonical ID, then add `:` for resource"⟩
  | false, false => accountProgress cur.token

/-! ### Resource -/

/-- The types of resources in the own partition, each with examples. -/
def ownTypes : List (String × String) :=
  [("user", "`user/alice` or `user/bob`"),
    ("policy", "`policy/MyBucketPolicy` or `policy/ReadOnlyAccess`")]

/-- The types of identities that advice is given on, each with examples. -/
def identityTypes : List (String × String) :=
  [("user", "`user/alice`, `user/developers/john`"),
    ("role", "`role/S3AccessRole`, `role/service-role/MyLambdaRole`"),
    ("group", "`group/Developers`, `group/Admins`")]

/-- The name of a resource: what stands between its first two slashes. -/
def resourceName (resource : List Char) : List Char :=
  ((resource.dropWhile (· != '/')).drop 1).takeWhile (· != '/')

/-- Advice on a resource in the own partition that has been begun. -/
def ownResourceAdvice (cur : Cursor) : Option Advice :=
  let type := String.ofList (resourceType cur.token)
  if !cur.token.contains '/' then
    if completes cur.token (ownTypes.map Prod.fst) then
      some ⟨.hint, "Continue typing: `user/alice`, `user/bob`, or `policy/MyBucketPolicy`"⟩
    else none
  else
    match ownTypes.lookup type with
    | some examples =>
        if (resourceName cur.token).isEmpty then
          some ⟨.hint, s!"Add the {type} name. Examples: {examples}"⟩
        else if cur.service = identityService ∧ cur.account ≠ [] then
          some ⟨.success, s!"Valid {Catalog.ownCloud} {type} ARN"⟩
        else none
    | none =>
        if completes (resourceType cur.token) (ownTypes.map Prod.fst) then
          some ⟨.hint, s!"{Catalog.ownCloud} supports: `user/` or `policy/`"⟩
        else none

/-- Advice on an identity that has been begun. -/
def identityAdvice (cur : Cursor) : Option Advice :=
  let type := String.ofList (resourceType cur.token)
  if cur.token = wholeAccount then
    if Arn.isAccount cur.account then
      some ⟨.success, "Complete! This grants access to the entire AWS account"⟩
    else none
  else if !cur.token.contains '/' then
    if completes cur.token (identityTypes.map Prod.fst ++ ["root"]) then
      some ⟨.hint, "Continue typing: `user/alice`, `role/S3AccessRole`, `group/Developers`, or " ++
        "`root`"⟩
    else none
  else
    match identityTypes.lookup type with
    | some examples =>
        if (resourceName cur.token).isEmpty then
          some ⟨.hint, s!"Add the {type} name. Examples: {examples}"⟩
        else if Arn.isAccount cur.account then some ⟨.success, s!"Valid IAM {type} ARN"⟩
        else none
    | none =>
        if completes (resourceType cur.token) (identityTypes.map Prod.fst) then
          some ⟨.hint, "Common types: `user/`, `role/`, `group/`"⟩
        else none

/-- Advice on the resource. -/
def resourceAdvice (cur : Cursor) : Option Advice :=
  match cur.isOwn, cur.token.isEmpty with
  | true, true =>
      some ⟨.hint, "Next: resource -> Examples: `user/alice`, `user/bob`, " ++
        "`policy/MyBucketPolicy`"⟩
  | true, false => ownResourceAdvice cur
  | false, true =>
      if cur.service = identityService then
        some ⟨.hint, "Next: resource -> Examples: `user/alice`, `role/S3AccessRole`, " ++
          "`group/Developers`, or `root`"⟩
      else some ⟨.hint, "Next: resource identifier"⟩
  | false, false => if cur.service = identityService then identityAdvice cur else none

/-! ### Resource names -/

/-- Advice on one field. -/
def slotAdvice (slot : Slot) (cur : Cursor) : Option Advice :=
  match slot with
  | .partition => partitionAdvice cur
  | .service => serviceAdvice cur
  | .region => some (regionAdvice cur)
  | .account => some (accountAdvice cur)
  | .resource => resourceAdvice cur

/-- Advice that may be given on a whole text: success only where the text would be accepted. -/
def holdBack (s : List Char) (advice : Advice) : Option Advice :=
  if advice.kind = .success ∧ !(review (String.ofList s)).isValid then none else some advice

/-- What advice on a resource name depends on: the field that is being typed and the cursor. -/
def cursor (s : List Char) : Slot × Cursor :=
  let fields := splitOn ':' s
  let arn := Arn.ofText s
  let slot := Slot.ofFieldCount fields.length
  -- the resource may hold colons, so its last field is not all that has been typed of it
  let token := if slot = .resource then arn.resource else fields.getLastD []
  (slot, ⟨arn.partition, arn.service, arn.account, token⟩)

/-- Advice on a resource name, or on the start of its leading word. -/
def arnAdvice (s : List Char) : Option Advice :=
  if !s.contains ':' then some ⟨.hint, "Continue typing: `arn:`"⟩
  else (slotAdvice (cursor s).1 (cursor s).2).bind (holdBack s)

/-! ### Other shapes -/

/-- The names of services that are used most. -/
def commonServiceNames : List String :=
  ["s3.amazonaws.com", "ec2.amazonaws.com"]

/-- What the domains of service names have in common with their beginnings. -/
def domainWord : List Char := "amazonaws".toList

/-- Advice on the name of a service. -/
def serviceNameAdvice (s : List Char) : Option Advice :=
  if !s.contains '.' && !contains domainWord s then none
  else if serviceDomains.any (·.isSuffixOf s) then
    if isServiceName s then some ⟨.success, "Valid service principal"⟩ else none
  else if completes s commonServiceNames then
    some ⟨.hint, "Common: `s3.amazonaws.com`, `ec2.amazonaws.com`"⟩
  else if contains domainWord s then
    some ⟨.hint, "Service principal format: `service-name.amazonaws.com`"⟩
  else none

/-- Advice on the number of an account. -/
def accountIdAdvice (s : List Char) : Option Advice :=
  if !allNonempty isDigit s then none
  else if s.length = Arn.accountLength then
    let account := String.ofList s
    some ⟨.warning, s!"Valid account ID. Consider using full ARN: `arn:aws:iam::{account}:root`"⟩
  else some (accountProgress s)

/-- Advice on a text that is no resource name. -/
def otherAdvice (s : List Char) : Option Advice :=
  match serviceNameAdvice s with
  | some advice => some advice
  | none =>
      if s = ['*'] then
        some ⟨.warning, "Wildcard grants public access - ensure this is intentional"⟩
      else accountIdAdvice s

/-- Advice before anything has been typed. -/
def firstAdvice : Advice :=
  ⟨.hint, "Start typing: `*` for public, `arn:aws:iam::` for AWS IAM, `arn:ipcld:iam::` for " ++
    Catalog.ownCloud ++ ", or 64-char hex for canonical ID"⟩

/-- The advice on what has been typed so far, if there is any. -/
def adviceOn (s : List Char) : Option Advice :=
  if s.isEmpty then some firstAdvice
  else if Arn.lead.isPrefixOf s || s.isPrefixOf Arn.lead then
    (arnAdvice s).or (otherAdvice s)
  else otherAdvice s

/-- **The advice on what has been typed so far**, if there is any. -/
def advise (principal : String) : Option Advice :=
  adviceOn principal.toList

end BucketAccess.Principal
