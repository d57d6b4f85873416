/-
**The commands.**

The first operand of a command line is the name of a command; the words behind it are the arguments
of that command.  Words that nobody took are reported in the end, when nothing else is wrong.

Main definitions:

* `BucketAccess.CommandLine.Verb` — the names of the commands, and what each takes;
* `BucketAccess.CommandLine.Command` — the commands with their arguments;
* `BucketAccess.CommandLine.findVerb` — the name of the command in a command line;
* `BucketAccess.CommandLine.Command.read` — **the command of a command line**.
-/

import BucketAccess.Catalog.Documents
import BucketAccess.CommandLine.Arguments
import BucketAccess.Policy.Action

set_option relaxedAutoImplicit false
set_option autoImplicit false

namespace BucketAccess.CommandLine

/-! ### Names and grammars -/

/-- The names of the commands. -/
inductive Verb where
  | checkBucket
  | checkPrincipal
  | generate
  | validate
  | presets
  | actions
  deriving DecidableEq

namespace Verb

/-- The commands, in order. -/
def all : List Verb :=
  [.checkBucket, .checkPrincipal, .generate, .validate, .presets, .actions]

/-- The name of a command as it is typed. -/
def name : Verb → String
  | .checkBucket => "check-bucket"
  | .checkPrincipal => "check-principal"
  | .generate => "generate"
  | .validate => "validate"
  | .presets => "templates"
  | .actions => "actions"

/-- The command of a name. -/
def ofName? (name : String) : Option Verb :=
  all.find? (·.name == name)

/-- Every command is found by its name. -/
theorem ofName?_name (v : Verb) : ofName? v.name = some v := by
  cases v <;> decide

end Verb

/-- A switch that is there or not. -/
def flag (form : String) : Switch :=
  ⟨[form], .flag, false⟩

/-- A switch that takes a value. -/
def valued (form : String) : Switch :=
  ⟨[form], .value, false⟩

/-- What a command takes. -/
def Verb.grammar : Verb → Grammar
  | .checkBucket => ⟨some "name", [.askHelp, flag "--json"]⟩
  | .checkPrincipal => ⟨some "value", [.askHelp, flag "--json"]⟩
  | .generate =>
      ⟨none, [.askHelp, ⟨["--bucket"], .value, true⟩,
        ⟨["--effect"], .choice Catalog.effects, false⟩, valued "--action", valued "--actions-file",
        valued "--resource-path", valued "--condition", valued "--template", flag "--validate",
        flag "--save", valued "--output-dir"]⟩
  | .validate => ⟨some "file", [.askHelp, flag "--check-principals", flag "--json"]⟩
  | .presets => ⟨none, [.askHelp]⟩
  | .actions => ⟨none, [.askHelp]⟩

/-! ### Commands -/

/-- What a policy is generated from. -/
structure GenerateRequest where
  /-- The bucket as it was typed, unless it was left blank. -/
  bucket : Option String
  /-- What the statement does, if it is chosen. -/
  effect : Option String
  /-- The actions, in order. -/
  actions : List Policy.Action
  /-- A file with more actions, one on each line. -/
  actionsFile : Option String
  /-- The path of the objects, if it is chosen. -/
  path : Option String
  /-- The condition as it was typed. -/
  condition : Option String
  /-- The preset to start from. -/
  preset : Option String
  /-- Whether the policy is reviewed. -/
  validate : Bool
  /-- Whether the policy is saved. -/
  save : Bool
  /-- The directory for saved policies, if it is chosen. -/
  outputDir : Option String
  deriving DecidableEq

/-- The commands with their arguments. -/
inductive Command where
  | checkBucket (name : String) (json : Bool)
  | checkPrincipal (principal : String) (json : Bool)
  | generate (request : GenerateRequest)
  | validate (file : String) (inside json : Bool)
  | presets
  | actions
  deriving DecidableEq

/-- A value that may be empty to say that there is none. -/
def nonempty (value : Option String) : Option String :=
  value.filter fun text => !text.isEmpty

/-- The action in a value; a blank value is a blank action. -/
def actionOf (value : Option String) : Policy.Action :=
  match value with
  | some name => .named name
  | none => .blank

/-- The request in the arguments of the command that generates a policy. -/
def GenerateRequest.ofArguments (a : Arguments) : GenerateRequest where
  bucket := (a.last? "--bucket").join
  effect := nonempty (a.text? "--effect")
  actions := (a.all "--action").map actionOf
  actionsFile := nonempty (a.text? "--actions-file")
  path := a.text? "--resource-path"
  condition := nonempty (a.text? "--condition")
  preset := nonempty (a.text? "--template")
  validate := a.has "--validate"
  save := a.has "--save"
  outputDir := nonempty (a.text? "--output-dir")

/-- The command of a name and its arguments. -/
def Command.ofArguments (v : Verb) (a : Arguments) : Command :=
  let operand := a.operand.getD ""
  match v with
  | .checkBucket => .checkBucket operand (a.has "--json")
  | .checkPrincipal => .checkPrincipal operand (a.has "--json")
  | .generate => .generate (.ofArguments a)
  | .validate => .validate operand (a.has "--check-principals") (a.has "--json")
  | .presets => .presets
  | .actions => .actions

/-! ### Reading a command line -/

/-- What is found of a command: words before it that nobody takes, its name, and the words
behind. -/
structure Found where
  /-- The words before it that nobody takes. -/
  before : List String
  /-- Its name as it was typed. -/
  name : String
  /-- The words behind it. -/
  behind : List String
  deriving DecidableEq

/-- The name of the command in a command line: the first operand.  Two hyphens on their own are
taken for a name when words follow them. -/
def findVerb : List String → Except Stop Found
  | [] => .error (.mistake (.missing ["command"]))
  | text :: rest =>
      if text = "--" then
        if rest.isEmpty then .error (.mistake (.missing ["command"])) else .ok ⟨[], text, rest⟩
      else
        match classify [.askHelp] text with
        | .error stop => .error stop
        | .ok (.switch s attached) => .error ((stopOf s attached).getD .help)
        | .ok (.operand name) => .ok ⟨[], name, rest⟩
        | .ok _ => (findVerb rest).map fun found => { found with before := text :: found.before }

/-- The name of the program. -/
def programName : String := "bucket-policy"

/-- How reading a command line ends without a command. -/
inductive NoCommand where
  | usage (e : UsageError)
  | help
  deriving DecidableEq

/-- What a stop means in a program or one of its commands. -/
def Stop.inProgram (program : String) : Stop → NoCommand
  | .mistake m => .usage ⟨program, m⟩
  | .help => .help

/-- The command of a name, or a mistake. -/
def verbOf (name : String) : Except Stop Verb :=
  match Verb.ofName? name with
  | some v => .ok v
  | none => .error (.mistake (.noChoice "command" name (Verb.all.map Verb.name)))

/-- **The command of a command line.** -/
def Command.read (words : List String) : Except NoCommand Command := do
  let found ← (findVerb words).mapError (Stop.inProgram programName)
  let v ← (verbOf found.name).mapError (Stop.inProgram programName)
  let a ← (v.grammar.read found.behind).mapError (Stop.inProgram s!"{programName} {v.name}")
  if (found.before ++ a.leftOver).isEmpty then return .ofArguments v a
  else throw (.usage ⟨programName, .leftOver (found.before ++ a.leftOver)⟩)

end BucketAccess.CommandLine
