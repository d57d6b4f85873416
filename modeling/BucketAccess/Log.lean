/-
**The log.**

While work is done, records tell what happens, each with a level that says how much it matters.
Only records from a chosen level on are shown.

Main definitions:

* `BucketAccess.Log.Level` — the levels, in order;
* `BucketAccess.Log.Record` — a record, and `Record.line`;
* `BucketAccess.Log.shown` — the records from a level on.
-/

set_option relaxedAutoImplicit false
set_option autoImplicit false

namespace BucketAccess.Log

/-- How much a record matters. -/
inductive Level where
  | debug
  | info
  | warning
  | error
  | critical
  deriving DecidableEq

namespace Level

/-- The levels, from the least to the greatest. -/
def all : List Level :=
  [.debug, .info, .warning, .error, .critical]

/-- The name of a level. -/
def name : Level → String
  | .debug => "DEBUG"
  | .info => "INFO"
  | .warning => "WARNING"
  | .error => "ERROR"
  | .critical => "CRITICAL"

/-- The place of a level in the order. -/
def rank : Level → Nat
  | .debug => 0
  | .info => 1
  | .warning => 2
  | .error => 3
  | .critical => 4

/-- The level of a name. -/
def ofName? (name : String) : Option Level :=
  all.find? (·.name == name)

/-- Every level is found by its name. -/
theorem ofName?_name (level : Level) : ofName? level.name = some level := by
  cases level <;> decide

end Level

/-- A record of something that happened. -/
structure Record where
  /-- How much it matters. -/
  level : Level
  /-- What happened. -/
  text : String
  deriving DecidableEq

/-- A record as it is told: the level and what happened. -/
def Record.line (r : Record) : String :=
  s!"{r.level.name} - {r.text}"

/-- The records from a level on. -/
def shown (least : Level) (records : List Record) : List Record :=
  records.filter fun r => least.rank ≤ r.level.rank

end BucketAccess.Log
