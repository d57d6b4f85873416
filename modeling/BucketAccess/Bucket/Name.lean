/-
**Names of buckets.**

The name of a bucket is part of an address, so it follows rules of its own.  The rules are checked
one by one and each broken rule is reported, so that whoever chose the name sees everything that is
wrong with it.  Some rules overlap on purpose: an upper-case letter breaks the rule about the
characters of a name, and has a rule of its own that says what to do.

Main definitions:

* `BucketAccess.Bucket.NameRule` — the rules, and their wording when broken;
* `BucketAccess.Bucket.NameRule.isBrokenBy` — whether a name breaks a rule;
* `BucketAccess.Bucket.brokenRules` — the rules that a name breaks, in order;
* `BucketAccess.Bucket.review` — **the verdict on a name**.

Main results:

* `BucketAccess.Bucket.isValid_review_iff` — a name is valid when it breaks no rule.
-/

import BucketAccess.Text.Digit
import BucketAccess.Text.Split
import BucketAccess.Verdict

set_option relaxedAutoImplicit false
set_option autoImplicit false

namespace BucketAccess.Bucket

open BucketAccess.Text

/-! ### Rules -/

/-- The rules for names. -/
inductive NameRule where
  | longEnough
  | shortEnough
  | characters
  | firstCharacter
  | lastCharacter
  | noAddress
  | noEncodedName
  | noAccessPoint
  | separatedPeriods
  | periodsAwayFromHyphens
  | noUppercase
  | noUnderscores
  deriving DecidableEq

/-- The rules in the order in which they are reported. -/
def NameRule.all : List NameRule :=
  [.longEnough, .shortEnough, .characters, .firstCharacter, .lastCharacter, .noAddress,
    .noEncodedName, .noAccessPoint, .separatedPeriods, .periodsAwayFromHyphens, .noUppercase,
    .noUnderscores]

/-- What is told about a broken rule. -/
def NameRule.message : NameRule → String
  | .longEnough => "Bucket name must be at least 3 characters long"
  | .shortEnough => "Bucket name cannot exceed 63 characters"
  | .characters =>
      "Bucket name can only contain lowercase letters, numbers, dots (.), and hyphens (-)"
  | .firstCharacter => "Bucket name must begin with a lowercase letter or number"
  | .lastCharacter => "Bucket name must end with a lowercase letter or number"
  | .noAddress => "Bucket name cannot be formatted as an IP address (e.g., 192.168.1.1)"
  | .noEncodedName => "Bucket name cannot start with \"xn--\""
  | .noAccessPoint => "Bucket name cannot end with \"-s3alias\""
  | .separatedPeriods => "Bucket name cannot contain two adjacent periods (..)"
  | .periodsAwayFromHyphens => "Bucket name cannot have a period adjacent to a hyphen"
  | .noUppercase => "Bucket name cannot contain uppercase letters"
  | .noUnderscores => "Bucket name cannot contain underscores (_)"

/-! ### Checks -/

/-- The least length of a name. -/
def minLength : Nat := 3

/-- The greatest length of a name. -/
def maxLength : Nat := 63

/-- The characters at the two ends of a name. -/
def isEdge (c : Char) : Bool :=
  isLower c || isDigit c

/-- The characters of a name. -/
def isNameChar (c : Char) : Bool :=
  isEdge c || c == '.' || c == '-'

/-- Whether a field is a number of one to three decimal digits, of any writing system. -/
def isShortNumber (field : List Char) : Bool :=
  0 < field.length && field.length ≤ 3 && field.all isDecimalDigit

/-- Whether a name looks like an address: four short numbers with periods between them. -/
def isAddress (name : List Char) : Bool :=
  let fields := splitOn '.' name
  fields.length == 4 && fields.all isShortNumber

/-- Whether a name breaks a rule. -/
def NameRule.isBrokenBy (name : List Char) : NameRule → Bool
  | .longEnough => name.length < minLength
  | .shortEnough => maxLength < name.length
  | .characters => !allNonempty isNameChar name
  | .firstCharacter => !name.head?.any isEdge
  | .lastCharacter => !name.getLast?.any isEdge
  | .noAddress => isAddress name
  | .noEncodedName => ['x', 'n', '-', '-'].isPrefixOf name
  | .noAccessPoint => ['-', 's', '3', 'a', 'l', 'i', 'a', 's'].isSuffixOf name
  | .separatedPeriods => contains ['.', '.'] name
  | .periodsAwayFromHyphens => contains ['.', '-'] name || contains ['-', '.'] name
  | .noUppercase => name.any isUpper
  | .noUnderscores => name.contains '_'

/-- The rules that a name breaks, in order. -/
def brokenRules (name : List Char) : List NameRule :=
  NameRule.all.filter (·.isBrokenBy name)

/-- **The verdict on a name.**  Every broken rule is an error. -/
def review (name : String) : Verdict String :=
  ⟨(brokenRules name.toList).map NameRule.message, []⟩

/-- A name is valid when it breaks no rule. -/
theorem isValid_review_iff {name : String} :
    (review name).isValid = true ↔ ∀ rule : NameRule, rule.isBrokenBy name.toList = false := by
  have hall : ∀ rule : NameRule, rule ∈ NameRule.all := by
    intro rule
    cases rule <;> decide
  simp [review, Verdict.isValid, brokenRules, List.isEmpty_iff, hall]

end BucketAccess.Bucket
