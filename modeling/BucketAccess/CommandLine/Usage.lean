/-
**Mistakes in the use of a command line.**

Words on a command line that make no sense are reported with the program or command that they were
meant for, and nothing else is done.

Main definitions:

* `BucketAccess.CommandLine.UsageMistake` — what can be wrong, and its wording;
* `BucketAccess.CommandLine.UsageError` — a mistake and where it was made;
* `BucketAccess.CommandLine.Stop` — the two ways in which reading a command line ends early.
-/

import BucketAccess.Text.Quoted

set_option relaxedAutoImplicit false
set_option autoImplicit false

namespace BucketAccess.CommandLine

open BucketAccess.Text (quoted)

/-- What can be wrong with the words of a command line. -/
inductive UsageMistake where
  /-- A shortened option stands for several. -/
  | ambiguous (word : String) (options : List String)
  /-- An option that takes a value has none. -/
  | noValue (option : String)
  /-- An option that takes no value has one. -/
  | strayValue (option value : String)
  /-- A value is none of those that are possible. -/
  | noChoice (name value : String) (choices : List String)
  /-- Something that has to be there is not. -/
  | missing (names : List String)
  /-- Words are left over. -/
  | leftOver (words : List String)
  deriving DecidableEq

/-- The wording of a mistake. -/
def UsageMistake.text : UsageMistake → String
  | .ambiguous word options =>
      s!"ambiguous option: {word} could match " ++ ", ".intercalate options
  | .noValue option => s!"argument {option}: expected one argument"
  | .strayValue option value =>
      s!"argument {option}: ignored explicit argument {quoted value}"
  | .noChoice name value choices =>
      s!"argument {name}: invalid choice: {quoted value} (choose from " ++
        ", ".intercalate (choices.map fun choice : String => quoted choice) ++ ")"
  | .missing names => "the following arguments are required: " ++ ", ".intercalate names
  | .leftOver words => "unrecognized arguments: " ++ " ".intercalate words

/-- A mistake and where it was made. -/
structure UsageError where
  /-- The program, and the command if there is one. -/
  program : String
  /-- What is wrong. -/
  mistake : UsageMistake
  deriving DecidableEq

/-- How a mistake is told. -/
def UsageError.message (e : UsageError) : String :=
  s!"{e.program}: error: {e.mistake.text}"

/-- The two ways in which reading a command line ends early. -/
inductive Stop where
  | mistake (m : UsageMistake)
  /-- Help is asked for. -/
  | help
  deriving DecidableEq

end BucketAccess.CommandLine
