/-
**Presets.**

Common patterns of access are ready as presets: what a statement does, for which actions and on
which paths, with a name to ask for it and a line to describe it.

Main definitions:

* `BucketAccess.Preset` — a preset;
* `BucketAccess.Preset.all` — the presets, in order;
* `BucketAccess.Preset.find?` — the preset of a name;
* `BucketAccess.Preset.unknownMessage` — the wording when there is none.

Main results:

* `BucketAccess.Preset.find?_name` — every preset is found by its name.
-/

import BucketAccess.Text.Quoted

set_option relaxedAutoImplicit false
set_option autoImplicit false

namespace BucketAccess

/-- A preset. -/
structure Preset where
  /-- The name to ask for it. -/
  name : String
  /-- What the statement does. -/
  effect : String
  /-- The actions, in order. -/
  actions : List String
  /-- The path of the objects inside the bucket. -/
  path : String
  /-- One line about it. -/
  description : String
  deriving DecidableEq

namespace Preset

/-- Reading for everyone. -/
def publicRead : Preset where
  name := "publicRead"
  effect := "Allow"
  actions := ["s3:GetObject"]
  path := "*"
  description := "Public read access for all objects"

/-- Reading and writing for one user. -/
def privateReadWrite : Preset where
  name := "privateReadWrite"
  effect := "Allow"
  actions := ["s3:GetObject", "s3:PutObject", "s3:DeleteObject", "s3:ListBucket"]
  path := "*"
  description := "Private read/write access for specific IAM user"

/-- Reading from another account. -/
def crossAccount : Preset where
  name := "crossAccount"
  effect := "Allow"
  actions := ["s3:GetObject", "s3:ListBucket"]
  path := "*"
  description := "Cross-account access"

/-- Reading and writing with locks and versions. -/
def objectLockVersioning : Preset where
  name := "objectLockVersioning"
  effect := "Allow"
  actions := ["s3:GetObject", "s3:PutObject", "s3:DeleteObject", "s3:ListBucket",
    "s3:GetObjectAttributes", "s3:GetObjectLockConfiguration", "s3:PutObjectLockConfiguration",
    "s3:BypassGovernanceRetention", "s3:GetBucketVersioning", "s3:PutBucketVersioning",
    "s3:ListBucketVersions", "s3:GetObjectVersion", "s3:DeleteObjectVersion",
    "s3:GetObjectVersionAttributes"]
  path := "*"
  description := "Enable object lock and versioning with read/write access"

/-- The presets, in order. -/
def all : List Preset :=
  [publicRead, privateReadWrite, crossAccount, objectLockVersioning]

/-- The preset of a name. -/
def find? (name : String) : Option Preset :=
  all.find? (·.name == name)

/-- The wording when no preset has a name; the names there are follow. -/
def unknownMessage (name : String) : String :=
  s!"Unknown template {Text.quoted name}. Available: " ++ ", ".intercalate (all.map Preset.name)

/-- Every preset is found by its name. -/
theorem find?_name {p : Preset} (h : p ∈ all) : find? p.name = some p := by
  simp only [all, List.mem_cons, List.not_mem_nil, or_false] at h
  rcases h with rfl | rfl | rfl | rfl <;> decide

end Preset

end BucketAccess
