/-
**Saving policies.**

A policy is saved in a file named after its bucket.  The text is first written to a new file beside
the final one, which then takes its name in one step, so that no reader ever finds half a policy,
and a policy that cannot be saved leaves the old one alone.

Main definitions:

* `BucketAccess.Saving.fileName` — the name of the file for a bucket;
* `BucketAccess.Saving.target` — its path in a directory;
* `BucketAccess.Saving.savedText` — what the file holds;
* `BucketAccess.Saving.save` — **saving a policy**.
-/

import BucketAccess.Json.Writer
import BucketAccess.Workspace

set_option relaxedAutoImplicit false
set_option autoImplicit false

namespace BucketAccess.Saving

open BucketAccess.Files (Path)
open BucketAccess.Text (strip)

/-- The bucket that a file is named after when none is given. -/
def namelessBucket : String := "bucket"

/-- The name of the file for a bucket. -/
def fileName (bucket : Option String) : String :=
  let given := strip (bucket.getD "")
  (if given.isEmpty then namelessBucket else given) ++ "-policy.json"

/-- The path of the file for a bucket in a directory. -/
def target (directory : Path) (bucket : Option String) : Path :=
  directory.join (.ofText (fileName bucket).toList)

/-- The path of the new file beside the final one; the tag makes its name new. -/
def draftOf (final : Path) (tag : String) : Path :=
  final.extend (".tmp." ++ tag).toList

/-- What the file holds: the policy, each element on a line of its own, and a line feed. -/
def savedText (document : Json.Value) : List Char :=
  document.written Json.indented 0 ++ ['\n']

/-- The new file takes the name of the final one; if it cannot, it is removed. -/
def settle (new final : Path) : Work Unit :=
  tryCatch (Work.changeFiles (·.rename new final)) fun failure => do
    Work.changeFiles fun files => .ok (files.discard new)
    throw failure

/-- **Saving a policy** in the file for a bucket.  The directory is made if need be, and writing
over a file is worth a warning.  A document can always be written; that a policy is nested deeper
than there is room for open containers while it is written is left out here. -/
def save (directory : Path) (tag : String) (document : Json.Value) (bucket : Option String) :
    Work Path := do
  Work.alterFiles (·.layDirectories directory)
  let final := target directory bucket
  -- the warning comes first, whether or not writing succeeds
  if ← Work.askFiles (·.leadsTo final) then
    Work.record .warning s!"Overwriting existing policy file: {final.toString}"
  let new := draftOf final tag
  Work.changeFiles (·.write new (Text.Utf8.encode (savedText document)))
  settle new final
  return final

end BucketAccess.Saving
