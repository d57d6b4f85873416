/-
**The choice of actions.**

The actions of a policy are ticked in a list, and more of them can be typed, one on each line.
Typed actions follow the ticked ones; blanks around them and blank lines do not count, and nothing
is sorted or dropped.

Main definitions:

* `BucketAccess.Policy.typedActions` — the actions in a typed text;
* `BucketAccess.Policy.mergeActions` — ticked actions and typed ones.

Main results:

* `BucketAccess.Policy.mergeActions_append` — typing may be done in several goes.
-/

import BucketAccess.Text.Blank
import BucketAccess.Text.Split

set_option relaxedAutoImplicit false
set_option autoImplicit false

namespace BucketAccess.Policy

open BucketAccess.Text

/-- The actions in a typed text: its lines without the blanks around them, blank lines left out. -/
def typedActions (typed : List Char) : List String :=
  (((splitOn '\n' typed).map trim).filter (!·.isEmpty)).map String.ofList

/-- Ticked actions and then the typed ones. -/
def mergeActions (ticked : List String) (typed : Option String) : List String :=
  match typed with
  | none => ticked
  | some text => ticked ++ typedActions text.toList

/-- Cutting at a separator that stands between two texts. -/
theorem splitOn_append_cons (sep : Char) (s t : List Char) :
    splitOn sep (s ++ sep :: t) = splitOn sep s ++ splitOn sep t := by
  induction s with
  | nil => simp [splitOn]
  | cons c r ih =>
      by_cases h : c = sep
      · simp [splitOn, h, ih]
      · cases hr : splitOn sep r with
        | nil => exact absurd hr (splitOn_ne_nil sep r)
        | cons w ws => simp [splitOn, h, ih, hr]

/-- The actions of two texts on different lines. -/
theorem typedActions_append (s t : List Char) :
    typedActions (s ++ '\n' :: t) = typedActions s ++ typedActions t := by
  simp [typedActions, splitOn_append_cons]

/-- Typing may be done in several goes. -/
theorem mergeActions_append (ticked : List String) (s t : String) :
    mergeActions ticked (some (s ++ "\n" ++ t)) =
      mergeActions (mergeActions ticked (some s)) (some t) := by
  simp [mergeActions, String.toList_append, typedActions_append]

end BucketAccess.Policy
