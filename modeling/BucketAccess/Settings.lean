/-
**Settings from the environment.**

The environment can choose the word that ids start with, the directory for saved policies, the least
level of the log, and whether principals are looked into.  A variable that is not set leaves the
default; blanks around a value do not count.  A word that would make ids invalid and a level that is
unknown are refused, in this order.

Main definitions:

* `BucketAccess.Settings` — the settings;
* `BucketAccess.Settings.Fault` — why settings are refused;
* `BucketAccess.Settings.load` — **the settings of an environment**.

Main results:

* `BucketAccess.Settings.sidLead_of_load` — ids of accepted settings start with letters and digits.
-/

import BucketAccess.Files.Path
import BucketAccess.Log
import BucketAccess.Sid
import BucketAccess.Text.Blank
import BucketAccess.Text.Quoted
import BucketAccess.Text.Uppercase

set_option relaxedAutoImplicit false
set_option autoImplicit false

namespace BucketAccess

open BucketAccess.Text

/-- The settings. -/
structure Settings where
  /-- The word that ids start with. -/
  sidLead : String
  /-- The directory for saved policies. -/
  outputDir : Files.Path
  /-- The least level of the records that are shown. -/
  logLevel : Log.Level
  /-- Whether principals are looked into. -/
  inside : Bool

namespace Settings

/-- The variables of an environment, each with its value. -/
abbrev Variables := List (String × String)

/-- Why settings are refused. -/
inductive Fault where
  /-- The word for ids has other characters than letters and digits, or none. -/
  | sidLead (given : String)
  /-- There is no such level. -/
  | logLevel (given : String)
  deriving DecidableEq

/-- The wording of a refusal. -/
def Fault.message : Fault → String
  | .sidLead given => s!"BUCKET_POLICY_SID_PREFIX must be alphanumeric, got: {quoted given}"
  | .logLevel given =>
      "BUCKET_POLICY_LOG_LEVEL must be one of " ++
        ", ".intercalate (Log.Level.all.map Log.Level.name) ++ s!", got: {quoted given}"

/-- The directory for saved policies when none is chosen. -/
def defaultOutputDir : String := "policies"

/-- The value of a variable without the blanks around it, or the default. -/
def valueOf (env : Variables) (name default : String) : String :=
  strip ((env.lookup name).getD default)

/-- The word that ids start with. -/
def loadSidLead (env : Variables) : Except Fault String :=
  let given := valueOf env "BUCKET_POLICY_SID_PREFIX" Sid.defaultLead
  if allNonempty isAlnum given.toList then .ok given else .error (.sidLead given)

/-- The least level of the log; case does not count. -/
def loadLogLevel (env : Variables) : Except Fault Log.Level :=
  let given := valueOf env "BUCKET_POLICY_LOG_LEVEL" Log.Level.info.name
  let name := String.ofList (upper given.toList)
  match Log.Level.ofName? name with
  | some level => .ok level
  | none => .error (.logLevel name)

/-- The directory for saved policies; a blank choice is none. -/
def loadOutputDir (env : Variables) : Files.Path :=
  let given := valueOf env "BUCKET_POLICY_OUTPUT_DIR" defaultOutputDir
  .ofText (if given.isEmpty then defaultOutputDir else given).toList

/-- The lower-case form of an ASCII letter; the words of consent are ASCII. -/
def lowerAscii (c : Char) : Char :=
  if isUpper c then Char.ofNat (c.toNat + 32) else c

/-- The words that say yes. -/
def consents : List String :=
  ["1", "true", "yes", "on"]

/-- Whether principals are looked into. -/
def loadInside (env : Variables) : Bool :=
  let given := valueOf env "BUCKET_POLICY_CHECK_PRINCIPALS" "0"
  consents.contains (String.ofList (given.toList.map lowerAscii))

/-- **The settings of an environment.** -/
def load (env : Variables) : Except Fault Settings :=
  match loadSidLead env, loadLogLevel env with
  | .error fault, _ => .error fault
  | .ok _, .error fault => .error fault
  | .ok lead, .ok level => .ok ⟨lead, loadOutputDir env, level, loadInside env⟩

/-- Ids of accepted settings start with letters and digits. -/
theorem sidLead_of_load {env : Variables} {s : Settings} (h : load env = .ok s) :
    allNonempty isAlnum s.sidLead.toList = true := by
  unfold load at h
  split at h
  · simp at h
  · simp at h
  · next lead level hlead _ =>
      simp only [Except.ok.injEq] at h
      subst h
      simp only [loadSidLead] at hlead
      split at hlead
      · next hall =>
          simp only [Except.ok.injEq] at hlead
          exact hlead ▸ hall
      · simp at hlead

end Settings

end BucketAccess
