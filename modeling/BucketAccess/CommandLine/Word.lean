/-
**The words of a command line.**

Each word is an operand or names a switch.  A switch may be shortened as long as it stays clear
which one is meant, and may carry a value behind an equals sign.  Behind two hyphens on their own
every word is an operand, and so are a single hyphen, negative numbers and words with a space.

Main definitions:

* `BucketAccess.CommandLine.Switch` — the switches of a command;
* `BucketAccess.CommandLine.Word` — what a word is;
* `BucketAccess.CommandLine.classify` — what one word is;
* `BucketAccess.CommandLine.classifyAll` — what the words of a command line are.

Main results:

* `BucketAccess.CommandLine.classify_of_head` — a word that does not start with a hyphen is an
  operand.
-/

import BucketAccess.CommandLine.Usage
import BucketAccess.Text.Digit
import BucketAccess.Text.Split

set_option relaxedAutoImplicit false
set_option autoImplicit false

namespace BucketAccess.CommandLine

open BucketAccess.Text

/-! ### Switches -/

/-- What a switch does. -/
inductive Switch.Kind where
  /-- It is there or not. -/
  | flag
  /-- It takes a value. -/
  | value
  /-- It takes a value, which has to be one of several. -/
  | choice (choices : List String)
  /-- It asks for help. -/
  | help
  deriving DecidableEq

/-- A switch of a command. -/
structure Switch where
  /-- The forms of the switch, each with its hyphens. -/
  forms : List String
  /-- What it does. -/
  kind : Switch.Kind
  /-- Whether it has to be given. -/
  required : Bool
  deriving DecidableEq

/-- How a switch is called in messages: all its forms. -/
def Switch.name (s : Switch) : String :=
  "/".intercalate s.forms

/-- The switch that asks for help, which every command has. -/
def Switch.askHelp : Switch :=
  ⟨["-h", "--help"], .help, false⟩

/-! ### Words -/

/-- What a word that names a switch carries. -/
inductive Attached where
  | nothing
  /-- A value behind an equals sign. -/
  | equals (value : String)
  /-- Letters behind a switch of one letter, with or without an equals sign between them. -/
  | bundled (letters : String)
  deriving DecidableEq

/-- What a word is. -/
inductive Word where
  | operand (text : String)
  /-- Two hyphens on their own. -/
  | separator
  | switch (s : Switch) (attached : Attached)
  /-- A word that looks like a switch and is none. -/
  | unknown (text : String)
  deriving DecidableEq

/-- The forms of the switches, each with its switch, in order. -/
def allForms (switches : List Switch) : List (List Char × Switch) :=
  switches.flatMap fun s => s.forms.map fun form => (form.toList, s)

/-- What stands before the first equals sign of a word, and what stands behind it. -/
def splitEquals (word : List Char) : List Char × Option (List Char) :=
  match word.dropWhile (· ≠ '=') with
  | [] => (word, none)
  | _ :: value => (word.takeWhile (· ≠ '='), some value)

/-- What a form of a switch carries when a value stands behind an equals sign. -/
def attachedTo (form : List Char) (value : Option (List Char)) : Attached :=
  match value with
  | none => .nothing
  | some v =>
      if ['-', '-'].isPrefixOf form then .equals (String.ofList v) else .bundled (String.ofList v)

/-- The switches that a word may stand for when it is none of the forms itself: those with a form
that continues it, or the one whose single letter starts it. -/
def candidates (switches : List Switch) (word : List Char) : List (List Char × Switch × Attached) :=
  if ['-', '-'].isPrefixOf word then
    let (lead, value) := splitEquals word
    ((allForms switches).filter fun form => lead.isPrefixOf form.1).map fun form =>
      (form.1, form.2, attachedTo form.1 value)
  else
    ((allForms switches).filter fun form => form.1 = word.take 2).map fun form =>
      (form.1, form.2, .bundled (String.ofList (word.drop 2)))

/-- Whether a word is a negative number, whole or with a fraction.  A line feed at the end does not
count. -/
def isNegativeNumber (word : List Char) : Bool :=
  let text := if word.getLast? = some '\n' then word.dropLast else word
  match text with
  | '-' :: rest =>
      match rest.dropWhile isDecimalDigit with
      | [] => !rest.isEmpty
      | '.' :: fraction => allNonempty isDecimalDigit fraction
      | _ => false
  | _ => false

/-- What a word with a hyphen in front is, when it is no form of a switch. -/
def classifyOther (switches : List Switch) (text : String) : Except Stop Word :=
  let word := text.toList
  match candidates switches word with
  | [(_, s, attached)] => .ok (.switch s attached)
  | [] => .ok (if isNegativeNumber word || word.contains ' ' then .operand text else .unknown text)
  | several =>
      .error (.mistake (.ambiguous text (several.map fun c => String.ofList c.1)))

/-- What one word is. -/
def classify (switches : List Switch) (text : String) : Except Stop Word :=
  let word := text.toList
  let (lead, value) := splitEquals word
  if word.head? ≠ some '-' then .ok (.operand text)
  else
    -- a form in full comes before anything shortened
    match (allForms switches).lookup word, (allForms switches).lookup lead with
    | some s, _ => .ok (.switch s .nothing)
    | none, some s => .ok (.switch s (attachedTo lead value))
    | none, none => if word.length = 1 then .ok (.operand text) else classifyOther switches text

/-- What the words of a command line are. -/
def classifyAll (switches : List Switch) : List String → Except Stop (List Word)
  | [] => .ok []
  | text :: rest =>
      if text = "--" then .ok (.separator :: rest.map .operand)
      else
        match classify switches text with
        | .error stop => .error stop
        | .ok word => (classifyAll switches rest).map (word :: ·)

/-- A word that does not start with a hyphen is an operand. -/
theorem classify_of_head {switches : List Switch} {text : String}
    (h : text.toList.head? ≠ some '-') : classify switches text = .ok (.operand text) := by
  simp [classify, h]

end BucketAccess.CommandLine
