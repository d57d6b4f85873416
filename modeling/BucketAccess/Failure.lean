/-
**Failures.**

Work that cannot be finished fails for one of a few reasons: unusable settings, files that cannot
be read or written, bytes that are no text, a text that is no document, a policy that cannot be
made, a preset that does not exist, a bucket that was left blank, a time beyond all bounds, or a
line that cannot be printed.

Main definitions:

* `BucketAccess.Failure` — the reasons, and `Failure.message`.
-/

import BucketAccess.Files.Tree
import BucketAccess.Policy.Draft
import BucketAccess.Preset
import BucketAccess.Settings

set_option relaxedAutoImplicit false
set_option autoImplicit false

namespace BucketAccess

/-- Why work cannot be finished. -/
inductive Failure where
  | settings (fault : Settings.Fault)
  | file (fault : Files.Fault)
  /-- The bytes of a file are no text. -/
  | encoding (fault : Text.Utf8.Fault)
  /-- A text is no document. -/
  | document (fault : Json.Fault Json.Place)
  /-- A policy cannot be made. -/
  | draft (failure : Policy.DraftFailure)
  /-- No preset has the name. -/
  | preset (name : String)
  /-- The bucket was left blank. -/
  | blankBucket
  /-- The time is beyond all bounds. -/
  | endlessTime
  /-- A line with halves of characters in it cannot be printed. -/
  | unprintable (halves : Text.Str.Halves)

/-- The wording of a failure. -/
def Failure.message : Failure → String
  | .settings fault => fault.message
  | .file fault => fault.message
  | .encoding fault => fault.message
  | .document fault => fault.message
  | .draft failure => failure.message
  | .preset name => Preset.unknownMessage name
  | .blankBucket => "'list' object has no attribute 'strip'"
  | .endlessTime => "cannot convert float infinity to integer"
  | .unprintable halves => halves.message

end BucketAccess
