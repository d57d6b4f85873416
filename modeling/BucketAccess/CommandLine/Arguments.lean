/-
**The arguments of a command.**

The words behind a command are read from the left.  The first operand is the operand of the command,
if it takes one; a switch takes its value from the next operand or from behind an equals sign.  Two
hyphens on their own are no value, and leave the switch with a blank one.  What nobody takes is left
over.

Main definitions:

* `BucketAccess.CommandLine.Grammar` — what a command takes;
* `BucketAccess.CommandLine.Arguments` — what a command was given;
* `BucketAccess.CommandLine.Expecting`, `BucketAccess.CommandLine.takeWords` — the arguments in a
  row of words;
* `BucketAccess.CommandLine.Grammar.read` — **the arguments in the words of a command line**.

Main results:

* `BucketAccess.CommandLine.takeWords_operands` — operands that nobody takes are all left over.
-/

import BucketAccess.CommandLine.Word

set_option relaxedAutoImplicit false
set_option autoImplicit false

namespace BucketAccess.CommandLine

/-- What a command takes. -/
structure Grammar where
  /-- The name of its operand, if it takes one. -/
  operand : Option String
  /-- Its switches. -/
  switches : List Switch
  deriving DecidableEq

/-- What a command was given. -/
structure Arguments where
  /-- The operand. -/
  operand : Option String
  /-- The flags, by name. -/
  flags : List String
  /-- The values, each with the name of its switch; a blank one is none. -/
  values : List (String × Option String)
  /-- The words that nobody took. -/
  leftOver : List String
  deriving DecidableEq

namespace Arguments

/-- Nothing given. -/
def none : Arguments :=
  ⟨.none, [], [], []⟩

/-- The arguments with an operand. -/
def withOperand (a : Arguments) (text : String) : Arguments :=
  { a with operand := some text }

/-- The arguments with a flag in front. -/
def withFlag (a : Arguments) (name : String) : Arguments :=
  { a with flags := name :: a.flags }

/-- The arguments with a value in front. -/
def withValue (a : Arguments) (name : String) (value : Option String) : Arguments :=
  { a with values := (name, value) :: a.values }

/-- The arguments with a word in front that nobody took. -/
def withLeftOver (a : Arguments) (word : String) : Arguments :=
  { a with leftOver := word :: a.leftOver }

/-- Whether a flag was given. -/
def has (a : Arguments) (name : String) : Bool :=
  a.flags.contains name

/-- All values of a switch, in order. -/
def all (a : Arguments) (name : String) : List (Option String) :=
  (a.values.filter (·.1 == name)).map Prod.snd

/-- The value of a switch; of several the last one counts. -/
def last? (a : Arguments) (name : String) : Option (Option String) :=
  (a.all name).getLast?

/-- The value of a switch as a text; a blank one is empty. -/
def text? (a : Arguments) (name : String) : Option String :=
  (a.last? name).map (·.getD "")

end Arguments

/-! ### Switches -/

/-- Letters behind the letter that asks for help: the same letter may be repeated, and nothing else
may follow it. -/
def askedForHelp (name : String) (letters : List Char) : Stop :=
  let rest := letters.dropWhile (· == 'h')
  if rest.isEmpty && !letters.isEmpty then .help
  else .mistake (.strayValue name (String.ofList rest))

/-- A value that a switch is given, if the switch may have it.  A blank value is not looked at. -/
def checkValue (s : Switch) (text : String) : Except Stop (Option String) :=
  if text = "--" then .ok .none
  else
    match s.kind with
    | .choice choices =>
        if choices.contains text then .ok (some text)
        else .error (.mistake (.noChoice s.name text choices))
    | _ => .ok (some text)

/-- What a switch without a value of its own stops with, if it stops anything. -/
def stopOf (s : Switch) (attached : Attached) : Option Stop :=
  match s.kind, attached with
  | .help, .nothing => some .help
  | .help, .bundled letters => some (askedForHelp s.name letters.toList)
  | _, .nothing => none
  | _, .equals value => some (.mistake (.strayValue s.name value))
  | _, .bundled letters => some (.mistake (.strayValue s.name letters))

/-- Whether a switch takes a value. -/
def Switch.takesValue (s : Switch) : Bool :=
  match s.kind with
  | .value | .choice _ => true
  | .flag | .help => false

/-! ### Reading -/

/-- What the words read so far lead one to expect. -/
inductive Expecting where
  /-- Any word; an operand may still be wanted. -/
  | word (wanted : Bool)
  /-- The operand has just been taken; two hyphens right behind it belong to it. -/
  | closing
  /-- The value of a switch. -/
  | value (s : Switch) (wanted : Bool)

/-- Whether an operand is still wanted. -/
def Expecting.wanted : Expecting → Bool
  | .word wanted => wanted
  | .closing => false
  | .value _ wanted => wanted

/-- The arguments in a row of words.  Two hyphens right before the operand belong to it. -/
def takeWords (e : Expecting) : List Word → Except Stop Arguments
  | [] =>
      match e with
      | .value s _ => .error (.mistake (.noValue s.name))
      | _ => .ok .none
  | w :: rest =>
      match e, w with
      | .value s wanted, .operand text =>
          match checkValue s text with
          | .error stop => .error stop
          | .ok v => (takeWords (.word wanted) rest).map (·.withValue s.name v)
      | .value s _, _ => .error (.mistake (.noValue s.name))
      | .closing, .separator => takeWords (.word false) rest
      | _, .operand text =>
          if e.wanted then (takeWords .closing rest).map (·.withOperand text)
          else (takeWords (.word false) rest).map (·.withLeftOver text)
      | _, .separator =>
          if e.wanted && !rest.isEmpty then takeWords (.word true) rest
          else (takeWords (.word e.wanted) rest).map (·.withLeftOver "--")
      | _, .unknown text => (takeWords (.word e.wanted) rest).map (·.withLeftOver text)
      | _, .switch s attached =>
          match s.takesValue, attached with
          | true, .equals text | true, .bundled text =>
              match checkValue s text with
              | .error stop => .error stop
              | .ok v => (takeWords (.word e.wanted) rest).map (·.withValue s.name v)
          | true, .nothing => takeWords (.value s e.wanted) rest
          | false, _ =>
              match stopOf s attached with
              | some stop => .error stop
              | none => (takeWords (.word e.wanted) rest).map (·.withFlag s.name)

/-- The names of what a command has to be given and was not. -/
def Grammar.missing (g : Grammar) (a : Arguments) : List String :=
  (if a.operand.isNone then g.operand.toList else []) ++
    ((g.switches.filter fun s => s.required && (a.all s.name).isEmpty).map Switch.name)

/-- **The arguments in the words of a command line**. -/
def Grammar.read (g : Grammar) (words : List String) : Except Stop Arguments :=
  match classifyAll g.switches words with
  | .error stop => .error stop
  | .ok classified =>
      match takeWords (.word g.operand.isSome) classified with
      | .error stop => .error stop
      | .ok a =>
          if (g.missing a).isEmpty then .ok a else .error (.mistake (.missing (g.missing a)))

/-- Operands that nobody takes are all left over. -/
theorem takeWords_operands (texts : List String) :
    takeWords (.word false) (texts.map .operand) =
      .ok { Arguments.none with leftOver := texts } := by
  induction texts with
  | nil => rfl
  | cons text rest ih =>
      simp [takeWords, Expecting.wanted, ih, Except.map, Arguments.withLeftOver]

end BucketAccess.CommandLine
