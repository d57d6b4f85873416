/-
**Running a command.**

A run of the program is determined by the words of its command line, the environment, the files, the
standard input and the time.  Usage mistakes come first, then unusable settings, and only then is
anything done.  What a run prints, logs and does to the files before it fails stays done.

Main definitions:

* `BucketAccess.CommandLine.Surroundings` — what a run depends on besides its words;
* `BucketAccess.CommandLine.readText` — the text of a file;
* `BucketAccess.CommandLine.checkBucket`, `BucketAccess.CommandLine.checkPrincipal`,
  `BucketAccess.CommandLine.generate`, `BucketAccess.CommandLine.validate` — the commands;
* `BucketAccess.CommandLine.Outcome` — how a run ends and what it leaves;
* `BucketAccess.CommandLine.runFrom`, `BucketAccess.CommandLine.run` — **a run of the program**.
-/

import BucketAccess.CommandLine.Command
import BucketAccess.CommandLine.Output
import BucketAccess.Generator
import BucketAccess.Policy.Selection

set_option relaxedAutoImplicit false
set_option autoImplicit false

namespace BucketAccess.CommandLine

open BucketAccess.Decimal (Double)
open BucketAccess.Policy (Order)
open BucketAccess.Text (Str strip)

/-- What a run depends on besides its words. -/
structure Surroundings where
  /-- The variables of the environment. -/
  environment : Settings.Variables
  /-- The files. -/
  files : Files.Tree
  /-- The bytes of the standard input. -/
  input : List UInt8
  /-- The time in seconds since the epoch. -/
  now : Double
  /-- How many containers inside one another can be read. -/
  nesting : Nat
  /-- A tag that makes the names of new files new. -/
  tag : String

/-! ### Reading and printing -/

/-- The text in bytes, its lines ended by line feeds. -/
def decodeText (bytes : List UInt8) : Work String := do
  let chars ← Work.ofExcept .encoding (Text.Utf8.decode bytes)
  return String.ofList (Text.unifyNewlines chars)

/-- The text of a file. -/
def readText (file : String) : Work String := do
  decodeText (← Work.askFiles (·.read (.ofText file.toList)))

/-- Prints several lines. -/
def printLines (lines : List Str) : Work Unit :=
  lines.forM Work.print

/-- Prints a document, each element on a line of its own. -/
def printDocument (document : Json.Value) : Work Unit :=
  Work.print (document.render Json.indented)

/-- Prints a verdict, as a document or for people. -/
def printVerdict (title : String) (v : Verdict Str) (json : Bool) : Work Unit :=
  if json then printDocument (verdictDocument v) else printLines (verdictLines title v)

/-- The exit code of a verdict. -/
def exitCode {Message : Type} (v : Verdict Message) : Nat :=
  if v.isValid then 0 else 1

/-! ### Commands -/

/-- Checks the name of a bucket. -/
def checkBucket (name : String) (json : Bool) : Work Nat := do
  let name := strip name
  if name.isEmpty then
    Work.record .error "Bucket name is required"
    return 1
  let v := Bucket.review name
  printVerdict "Bucket name" (v.map Str.ofString) json
  return exitCode v

/-- Checks a principal and gives advice on it. -/
def checkPrincipal (principal : String) (json : Bool) : Work Nat := do
  let principal := strip principal
  let advice := Principal.advise principal
  let v := Principal.review principal
  if json then
    printDocument (principalDocument advice (v.map Str.ofString))
  else
    printLines (advice.toList.map fun a => adviceLine a)
    printVerdict "Principal" (v.map Str.ofString) false
  return exitCode v

/-- What a policy is started from: a preset or nothing. -/
structure Start where
  /-- What the statement does. -/
  effect : String
  /-- The path of the objects. -/
  path : String
  /-- The actions. -/
  actions : List String

/-- What a policy is started from; nothing where no preset has the name. -/
def startOf (preset : Option String) : Option Start :=
  match preset with
  | none => some ⟨"Allow", Policy.everyPath, []⟩
  | some name => (Preset.find? name).map fun p => ⟨p.effect, p.path, p.actions⟩

/-- The actions in a file, if one is given. -/
def fileActions (file : Option String) : Work (Option String) :=
  match file with
  | none => pure none
  | some name => return some (← readText name)

/-- The order of a request, its actions from the preset, the command line and the file. -/
def orderOf (bucket : String) (request : GenerateRequest) (start : Start) : Work Order := do
  let typed ← fileActions request.actionsFile
  return {
    bucket := bucket
    effect := some (request.effect.getD start.effect)
    actions := start.actions.map .named ++ request.actions ++
      (Policy.mergeActions [] typed).map .named
    path := some (request.path.getD start.path)
    condition := request.condition }

/-- A policy made to order; nothing where the order is refused, which is logged. -/
def makeOrLog (g : Generator) (limit : Nat) (now : Double) (order : Order) :
    Work (Option Policy.Draft) :=
  tryCatch (return some (← g.make limit now order)) fun failure =>
    match failure with
    -- not refusals: what was ordered is not even known
    | .draft (.deepCondition _) | .draft .blankAction => throw failure
    | .draft refusal => do
        Work.record .error s!"Generation failed: {refusal.message}"
        return none
    | _ => throw failure

/-- Reviews a policy that has been made, if that is asked for, and gives the exit code. -/
def reviewMade (g : Generator) (asked : Bool) (document : Json.Value) : Work Nat := do
  if !asked then return 0
  let v ← g.review document
  printVerdict "Policy" v false
  if v.isValid then return 0
  Work.record .warning s!"Policy validation failed: {Text.bracketed v.errors}"
  return 1

/-- Generates a policy for a bucket whose name is right. -/
def generateFor (bucket : String) (request : GenerateRequest) (settings : Settings)
    (around : Surroundings) : Work Nat := do
  match startOf request.preset with
  | none =>
      Work.record .error (Preset.unknownMessage (request.preset.getD ""))
      return 1
  | some start =>
      let order ← orderOf bucket request start
      let g : Generator :=
        ⟨settings.sidLead, Generator.chosenDir request.outputDir settings.outputDir,
          settings.inside⟩
      match ← makeOrLog g around.nesting around.now order with
      | none => return 1
      | some draft =>
          printDocument draft.document
          -- a policy that does not pass is saved all the same
          let code ← reviewMade g request.validate draft.document
          if request.save then
            let _ ← g.save around.tag draft.document (some bucket)
          return code

/-- Generates a policy. -/
def generate (request : GenerateRequest) (settings : Settings) (around : Surroundings) :
    Work Nat := do
  let some typed := request.bucket | throw .blankBucket
  let bucket := strip typed
  if bucket.isEmpty then
    Work.record .error "Please enter a bucket name"
    return 1
  let v := Bucket.review bucket
  if v.isValid then
    generateFor bucket request settings around
  else
    Work.record .error "Invalid bucket name. Please fix the errors below."
    printVerdict "Bucket name" (v.map Str.ofString) false
    return 1

/-- The word that stands for the standard input in place of a file. -/
def inputWord : String := "-"

/-- The text that is validated: of a file, or of the standard input. -/
def validatedText (file : String) (around : Surroundings) : Work String :=
  if file = inputWord then decodeText around.input else readText file

/-- Reviews the document in a text; a text that is no document is logged. -/
def reviewText (limit : Nat) (text : String) (inside json : Bool) : Work Nat :=
  match Json.read limit text with
  | .error (.tooDeep container) => throw (.document (.tooDeep container))
  | .error fault => do
      Work.record .error s!"Invalid JSON syntax: {fault.message}"
      return 1
  | .ok document => do
      let v ← Generator.reviewDocument inside document
      printVerdict "Policy" v json
      return exitCode v

/-- Validates a document. -/
def validate (file : String) (inside json : Bool) (settings : Settings)
    (around : Surroundings) : Work Nat := do
  let text ← validatedText file around
  reviewText around.nesting text (inside || settings.inside) json

/-- Does what a command asks for, and gives the exit code. -/
def execute (settings : Settings) (around : Surroundings) : Command → Work Nat
  | .checkBucket name json => checkBucket name json
  | .checkPrincipal principal json => checkPrincipal principal json
  | .generate request => generate request settings around
  | .validate file inside json => validate file inside json settings around
  | .presets => do
      printLines ((Preset.all.flatMap presetLines).map Str.ofString)
      return 0
  | .actions => do
      printLines ((Catalog.actionGroups.flatMap actionLines).map Str.ofString)
      return 0

/-! ### Runs -/

/-- How a run ends. -/
inductive Ending where
  /-- With an exit code. -/
  | exit (code : Nat)
  /-- With a mistake in the use of the command line. -/
  | usage (e : UsageError)
  /-- With help. -/
  | help
  /-- With a failure that no command deals with. -/
  | failed (failure : Failure)

/-- How a run ends and what it leaves. -/
structure Outcome where
  /-- How it ends. -/
  ending : Ending
  /-- The lines that it printed. -/
  printed : List String
  /-- The records that it showed. -/
  log : List Log.Record
  /-- The files after it. -/
  files : Files.Tree

/-- A run that ends before anything is done. -/
def Outcome.untouched (ending : Ending) (around : Surroundings) : Outcome :=
  ⟨ending, [], [], around.files⟩

/-- How work ends. -/
def Ending.ofResult : Except Failure Nat → Ending
  | .ok code => .exit code
  | .error failure => .failed failure

/-- A run of the program in which the next id has a given number. -/
def runFrom (number : Nat) (words : List String) (around : Surroundings) : Outcome :=
  match Command.read words with
  | .error (.usage e) => .untouched (.usage e) around
  | .error .help => .untouched .help around
  | .ok command =>
      match Settings.load around.environment with
      | .error fault => .untouched (.failed (.settings fault)) around
      | .ok settings =>
          let (result, w) :=
            (execute settings around command).runIn ⟨around.files, number, [], []⟩
          ⟨.ofResult result, w.printed, Log.shown settings.logLevel w.log, w.files⟩

/-- **A run of the program**, whose first id has the number one. -/
def run (words : List String) (around : Surroundings) : Outcome :=
  runFrom 1 words around

end BucketAccess.CommandLine
