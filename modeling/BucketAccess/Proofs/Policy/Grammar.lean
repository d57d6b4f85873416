/-
**The grammar of policy documents.**

The well-formed policies are described here on their own, without the review that looks for them:
which members a policy and its statements must have, which they may have, and what each of them may
be.  A member that is null counts as absent, except for the id of a statement; a single value stands
for a list of one; a condition names known operators only; and the inside of a principal matters on
request only.

Main definitions:

* `BucketAccess.Policy.Given`, `BucketAccess.Policy.Each`, `BucketAccess.Policy.OneOrMore`,
  `BucketAccess.Policy.ExactlyOne` — the conventions on members;
* `BucketAccess.Policy.IsAction`, `BucketAccess.Policy.IsResource`,
  `BucketAccess.Policy.IsCondition`, `BucketAccess.Policy.IsPrincipal` — what the fields of a
  statement may be;
* `BucketAccess.Policy.IsStatement`, `BucketAccess.Policy.IsPolicy` — **well-formed statements and
  policies**.
-/

import BucketAccess.Catalog.Conditions
import BucketAccess.Catalog.Documents
import BucketAccess.Json.Value
import BucketAccess.Text.Digit

set_option relaxedAutoImplicit false
set_option autoImplicit false

namespace BucketAccess.Policy

open BucketAccess.Json BucketAccess.Text

/-! ### The conventions on members -/

/-- A member that counts: it is there and is not null. -/
def Given (members : Members) (key : Str) (v : Value) : Prop :=
  List.lookup key members = some v ∧ v ≠ .null

/-- A value with a property, or a list of such values. -/
def Each (P : Value → Prop) : Value → Prop
  | .arr items => ∀ v ∈ items, P v
  | v => P v

/-- A value with a property, or a list of such values that is not empty. -/
def OneOrMore (P : Value → Prop) (v : Value) : Prop :=
  v ≠ .arr [] ∧ Each P v

/-- Of two members exactly one counts, and it has a property. -/
def ExactlyOne (P : Value → Prop) (members : Members) (field negated : String) : Prop :=
  ((∃ v, Given members field v ∧ P v) ∧ ∀ v, ¬ Given members negated v) ∨
    ((∃ v, Given members negated v ∧ P v) ∧ ∀ v, ¬ Given members field v)

/-! ### The fields of a statement -/

/-- An id: letters and digits, at least one of them. -/
def IsSid : Value → Prop
  | .str sid => sid ≠ "" ∧ ∀ p ∈ sid.toList, ∃ c, p = .char c ∧ isAlnum c = true
  | _ => False

/-- An action: a string with a colon. -/
def IsAction : Value → Prop
  | .str action => (':' : Point) ∈ action.toList
  | _ => False

/-- What may follow the start of a resource: something without two slashes next to each other, and
not too long for the name of a bucket if there is no slash at all. -/
structure IsBucketPart (rest : Str) : Prop where
  ne_empty : rest ≠ ""
  single_slashes : ¬ [('/' : Point), '/'] <:+: rest.toList
  short : ('/' : Point) ∉ rest.toList → rest.toList.length ≤ 63

/-- A resource: everything, or something in the storage service. -/
def IsResource : Value → Prop
  | .str resource =>
      resource = "*" ∨ ∃ rest : Str, resource = "arn:aws:s3:::" ++ rest ∧ IsBucketPart rest
  | _ => False

/-- An operator with or without a qualifier in front. -/
def IsOperator (key : Str) : Prop :=
  ∃ operator ∈ Catalog.conditionOperators,
    key = operator ∨ key = "ForAllValues:" ++ operator ∨ key = "ForAnyValue:" ++ operator

/-- A condition: operators, each with an object. -/
def IsCondition : Value → Prop
  | .obj operators => ∀ m ∈ operators, IsOperator m.1 ∧ ∃ members, m.2 = .obj members
  | _ => False

/-- An identity that a principal may list: everyone, or a name of the identity service. -/
def IsIdentity : Value → Prop
  | .str identity => identity = "*" ∨ ∃ rest : Str, identity = "arn:aws:iam::" ++ rest
  | _ => False

/-- A service that a principal may list: any string. -/
def IsService : Value → Prop
  | .str _ => True
  | _ => False

/-- A principal: everyone, or an object with known kinds of principals. -/
def IsPrincipal : Value → Prop
  | .str s => s = "*"
  | .obj members =>
      (∀ m ∈ members, ∃ type ∈ Catalog.principalTypes, m.1 = type) ∧
        (∀ v, Given members "AWS" v → Each IsIdentity v) ∧
        ∀ v, Given members "Service" v → Each IsService v
  | _ => False

/-! ### Statements and policies -/

/-- The members of a well-formed statement. -/
structure IsStatementBody (inside : Bool) (members : Members) : Prop where
  sid : ∀ v, List.lookup ("Sid" : Str) members = some v → IsSid v
  effect : List.lookup ("Effect" : Str) members = some (.str "Allow") ∨
    List.lookup ("Effect" : Str) members = some (.str "Deny")
  action : ExactlyOne (OneOrMore IsAction) members "Action" "NotAction"
  resource : ExactlyOne (OneOrMore IsResource) members "Resource" "NotResource"
  condition : ∀ v, Given members "Condition" v → IsCondition v
  principal : inside = true → ∀ v, Given members "Principal" v → IsPrincipal v
  notPrincipal : inside = true → ∀ v, Given members "NotPrincipal" v → IsPrincipal v

/-- A well-formed statement. -/
def IsStatement (inside : Bool) : Value → Prop
  | .obj members => IsStatementBody inside members
  | _ => False

/-- The members of a well-formed policy. -/
structure IsPolicyBody (inside : Bool) (members : Members) : Prop where
  version : List.lookup ("Version" : Str) members = some (.str "2012-10-17") ∨
    List.lookup ("Version" : Str) members = some (.str "2008-10-17")
  statements : ∃ items, List.lookup ("Statement" : Str) members = some (.arr items) ∧ items ≠ [] ∧
    ∀ v ∈ items, IsStatement inside v
  id : ∀ v, Given members "Id" v → ∃ text, v = .str text

/-- A well-formed policy. -/
def IsPolicy (inside : Bool) : Value → Prop
  | .obj members => IsPolicyBody inside members
  | _ => False

end BucketAccess.Policy
