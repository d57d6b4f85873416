/-
**Resource names.**

A resource name is a row of fields with colons between them: the word `arn`, the partition, the
service, the region, the account and the resource.  Only the resource may hold colons itself.  The
fields of any text can be looked at, and fields that are not there are empty; the well-formed names
of the known partitions are recognised by a scan from the left.

Main definitions:

* `BucketAccess.Arn` — the fields of a resource name;
* `BucketAccess.Arn.ofText` — the fields of any text;
* `BucketAccess.Arn.scan?` — the fields of a well-formed name, recognised from the left.

Main results:

* `BucketAccess.takeField?_eq_some_iff` — a field and its colon are the start of the text.
-/

import BucketAccess.Catalog.Identities
import BucketAccess.Text.Digit
import BucketAccess.Text.Split

set_option relaxedAutoImplicit false
set_option autoImplicit false

namespace BucketAccess

open BucketAccess.Text

/-- The fields of a resource name. -/
structure Arn where
  /-- Whose cloud the resource is in. -/
  partition : List Char
  /-- What kind of service it belongs to. -/
  service : List Char
  /-- Where it is. -/
  region : List Char
  /-- Whose it is. -/
  account : List Char
  /-- Which one it is; this field may hold colons. -/
  resource : List Char
  deriving DecidableEq

namespace Arn

/-- How every resource name starts. -/
def lead : List Char := ['a', 'r', 'n', ':']

/-- The fields of any text; fields that are not there are empty. -/
def ofText (s : List Char) : Arn :=
  let fields := splitOn ':' s
  { partition := fields.getD 1 []
    service := fields.getD 2 []
    region := fields.getD 3 []
    account := fields.getD 4 []
    resource := joinWith ':' (fields.drop 5) }

end Arn

/-! ### Recognition -/

/-- The field at the front of a text, made of characters of a class, and the text behind the colon
that ends it. -/
def takeField? (p : Char → Bool) (s : List Char) : Option (List Char × List Char) :=
  match s.dropWhile p with
  | ':' :: rest => some (s.takeWhile p, rest)
  | _ => none

/-- A field and its colon are the start of the text, if the colon is not in the class. -/
theorem takeField?_eq_some_iff {p : Char → Bool} (hp : p ':' = false) {s field rest : List Char} :
    takeField? p s = some (field, rest) ↔ s = field ++ ':' :: rest ∧ ∀ c ∈ field, p c = true := by
  unfold takeField?
  constructor
  · intro h
    split at h
    · next r hdrop =>
        simp only [Option.some.injEq, Prod.mk.injEq] at h
        obtain ⟨rfl, rfl⟩ := h
        refine ⟨?_, fun c hc => List.all_eq_true.1 (List.all_takeWhile (l := s)) c hc⟩
        rw [← hdrop, List.takeWhile_append_dropWhile]
    · simp at h
  · rintro ⟨rfl, hall⟩
    simp [List.takeWhile_append_of_pos hall, List.dropWhile_append_of_pos hall, hp]

namespace Arn

/-- The number of digits of an account. -/
def accountLength : Nat := 12

/-- Whether a field is an account. -/
def isAccount (s : List Char) : Bool :=
  digitsOfLength accountLength s

/-- The fields of a well-formed name: a known partition, a service, a region or none, an account or
none, and a resource on one line. -/
def scan? (s : List Char) : Option Arn := do
  let s ← dropLead? lead s
  let (partition, s) ← takeField? isToken s
  guard (Catalog.partitions.contains (String.ofList partition))
  let (service, s) ← takeField? isToken s
  guard (service ≠ [])
  let (region, s) ← takeField? isToken s
  let (account, resource) ← takeField? isDigit s
  guard (account = [] ∨ isAccount account)
  guard (resource ≠ [] ∧ '\n' ∉ resource)
  some ⟨partition, service, region, account, resource⟩

end Arn

end BucketAccess
