/-
**Ids of statements.**

Every statement gets an id of its own: a word to start with, the time in milliseconds, and a number
that counts the ids given out so far.  The number alone keeps the ids of one word apart; the time
tells when the statement was made.

Main definitions:

* `BucketAccess.Sid.millis?` — the milliseconds of a time in seconds;
* `BucketAccess.Sid.text` — the id of a word, a time and a number;
* `BucketAccess.Sid.defaultLead` — the word when none is chosen.
-/

import BucketAccess.Decimal.Double

set_option relaxedAutoImplicit false
set_option autoImplicit false

namespace BucketAccess.Sid

open BucketAccess.Decimal (Double digits intDigits)

/-- The word that ids start with when none is chosen. -/
def defaultLead : String := "GeneratedPolicy"

/-- The whole milliseconds of a time in seconds since the epoch; a time beyond all bounds has
none. -/
def millis? (now : Double) : Option Int :=
  now.truncTimes 1000

/-- The id of a word, a time in milliseconds and a number. -/
def text (lead : String) (millis : Int) (number : Nat) : String :=
  lead ++ String.ofList (intDigits millis) ++ String.ofList (digits number)

end BucketAccess.Sid
