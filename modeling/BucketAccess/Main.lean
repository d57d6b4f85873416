/-
**The program.**

A run of the program is a pure function of its surroundings, so the program only gathers them,
runs, and carries out what the run decided: it looks at the files that the command names, prints
and logs, and brings the files on the disk up to date.  A file is written beside its place and then
moved there in one step.

Main definitions:

* `BucketAccess.Program.pathsOf` — the paths that a command line names;
* `BucketAccess.Program.gather` — the surroundings of a run;
* `BucketAccess.Program.carryOut` — what a run decided, carried out;
* `main` — the program.
-/

import BucketAccess.CommandLine.Run
import Std.Time

set_option relaxedAutoImplicit false
set_option autoImplicit false

namespace BucketAccess.Program

open BucketAccess.CommandLine
open BucketAccess.Files (Anchor Node Path Place Tree)

/-! ### What a command line names -/

/-- The path of the policy that a request saves, if it saves one. -/
def savedPath (settings : Settings) (request : GenerateRequest) : Option Path :=
  if request.save then
    some (Saving.target (Generator.chosenDir request.outputDir settings.outputDir)
      (request.bucket.map Text.strip))
  else none

/-- The paths that a command names. -/
def commandPaths (settings : Settings) : Command → List Path
  | .generate request =>
      (request.actionsFile.map fun file => Path.ofText file.toList).toList ++
        (savedPath settings request).toList
  | .validate file _ _ => if file = inputWord then [] else [.ofText file.toList]
  | _ => []

/-- The paths that a command line names. -/
def pathsOf (words : List String) (given : Settings.Variables) : List Path :=
  match Command.read words, Settings.load given with
  | .ok command, .ok settings => commandPaths settings command
  | _, _ => []

/-- Whether a command line asks for the standard input. -/
def readsInput (words : List String) : Bool :=
  match Command.read words with
  | .ok (.validate file _ _) => file = inputWord
  | _ => false

/-! ### Gathering -/

/-- How a place is called on the disk. -/
def diskName (place : Place) : String :=
  String.ofList (Path.text ⟨.root, place⟩)

/-- What is at a place of the disk. -/
def probe (place : Place) : IO (Option Node) := do
  try
    return some (.file (← IO.FS.readBinFile (diskName place)).toList)
  catch
    | .inappropriateType .. => return some .directory
    | _ => return none

/-- The tree with what is on the disk at the names that follow a place. -/
def lookAlong (t : Tree) (place : Place) : List (List Char) → IO Tree
  | [] => return t
  | name :: rest => do
      let next := if name = Path.up then place.dropLast else place ++ [name]
      match ← probe next with
      | none => return t
      | some node => lookAlong (if next = [] then t else t.put next node) next rest

/-- The tree of what is on the disk along some paths. -/
def look (current : Place) (paths : List Path) : IO Tree := do
  let here ← lookAlong ⟨current, []⟩ [] current
  paths.foldlM (fun t p => lookAlong t (if p.anchor = .here then current else []) p.names) here

/-- All bytes of the standard input. -/
partial def inputBytes (input : IO.FS.Stream) (before : ByteArray) : IO ByteArray := do
  let more ← input.read 65536
  if more.isEmpty then return before
  inputBytes input (before ++ more)

/-- The names of the variables that are looked at. -/
def variableNames : List String :=
  ["BUCKET_POLICY_SID_PREFIX", "BUCKET_POLICY_LOG_LEVEL", "BUCKET_POLICY_OUTPUT_DIR",
    "BUCKET_POLICY_CHECK_PRINCIPALS"]

/-- The variables that are set. -/
def setVariables : IO Settings.Variables := do
  let found ← variableNames.mapM fun name => return (← IO.getEnv name).map (name, ·)
  return found.filterMap id

/-- How many containers inside one another are read. -/
def nesting : Nat := 990

/-- The surroundings of a run. -/
def gather (words : List String) : IO Surroundings := do
  let given ← setVariables
  let directory ← IO.currentDir
  let current := (Path.ofText directory.toString.toList).names
  let files ← look current (pathsOf words given)
  let input ← if readsInput words then inputBytes (← IO.getStdin) .empty else pure .empty
  let nanoseconds := (← Std.Time.Timestamp.now).toNanosecondsSinceUnixEpoch.val
  let now := Decimal.Double.ofDecimal (nanoseconds < 0) nanoseconds.natAbs (-9)
  return ⟨given, files, input.toList, now, nesting, toString nanoseconds⟩

/-! ### Carrying out -/

/-- Writes a file beside its place and moves it there. -/
def writeWhole (place : Place) (tag : String) (bytes : List UInt8) : IO Unit := do
  let new := diskName place ++ ".tmp." ++ tag
  IO.FS.writeBinFile new ⟨bytes.toArray⟩
  IO.FS.rename new (diskName place)

/-- Brings one place of the disk up to date. -/
def bringUp (before : Tree) (tag : String) (entry : Place × Node) : IO Unit := do
  if before.at? entry.1 = some entry.2 then return
  match entry.2 with
  | .directory => IO.FS.createDir (diskName entry.1)
  | .file bytes => writeWhole entry.1 tag bytes

/-- A record with the time, as it is shown. -/
def stamped (r : Log.Record) : IO String := do
  let now ← Std.Time.PlainDateTime.now
  return now.format "uuuu-MM-dd HH:mm:ss,SSS" ++ " - " ++ r.line

/-- How the program is used. -/
def usageLines : List String :=
  s!"usage: {programName} COMMAND ..." :: Verb.all.map fun v => "  " ++ v.name

/-- How a run ends: the exit code, after what there is to say. -/
def finish : Ending → IO UInt32
  | .exit code => return UInt32.ofNat code
  | .help => do
      usageLines.forM (IO.println ·)
      return 0
  | .usage e => do
      usageLines.forM (IO.eprintln ·)
      IO.eprintln e.message
      return 2
  | .failed failure => do
      IO.eprintln failure.message
      return 1

/-- What a run decided, carried out. -/
def carryOut (around : Surroundings) (outcome : Outcome) : IO UInt32 := do
  outcome.files.nodes.reverse.forM (bringUp around.files around.tag)
  outcome.printed.forM (IO.println ·)
  outcome.log.forM fun r => do IO.eprintln (← stamped r)
  finish outcome.ending

end BucketAccess.Program

/-- The program. -/
def main (words : List String) : IO UInt32 := do
  let around ← BucketAccess.Program.gather words
  BucketAccess.Program.carryOut around (BucketAccess.CommandLine.run words around)
