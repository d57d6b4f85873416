/-
**Documents as values.**

A policy document is made of the seven kinds of values that JSON has.  Whole numbers of any size
are kept apart from numbers with a fraction or an exponent, because the two are written
differently.  Strings and names are texts that may hold halves of characters.  The members of an
object stand in the order in which their names first came up, and no name occurs twice: naming a
member again replaces its value and leaves it where it is.

Main definitions:

* `BucketAccess.Json.Value` — a value;
* `BucketAccess.Json.Members` — the members of an object, in order;
* `BucketAccess.Json.Members.put`, `BucketAccess.Json.Members.ofList` — naming one member, and
  several one after the other.

Main results:

* `BucketAccess.Json.Members.lookup_put` — **the last naming wins**;
* `BucketAccess.Json.Members.keys_put` — and the first one fixes the place;
* `BucketAccess.Json.Members.nodup_keys_ofList` — no name occurs twice.
-/

import BucketAccess.Decimal.Double
import BucketAccess.Text.Str

set_option relaxedAutoImplicit false
set_option autoImplicit false

namespace BucketAccess.Json

open BucketAccess.Text (Str)

/-- A JSON value. -/
inductive Value where
  | null
  | bool (b : Bool)
  /-- A number without fraction and exponent. -/
  | int (i : Int)
  /-- A number with a fraction or an exponent. -/
  | real (x : Decimal.Double)
  | str (s : Str)
  | arr (items : List Value)
  | obj (members : List (Str × Value))

/-- The members of an object, in order. -/
abbrev Members := List (Str × Value)

namespace Members

/-- Naming a member: the value of a name that is there already is replaced where it stands, and a
new name goes to the end. -/
def put (key : Str) (value : Value) : Members → Members
  | [] => [(key, value)]
  | (k, v) :: rest => if k = key then (key, value) :: rest else (k, v) :: put key value rest

/-- The names of the members, in order. -/
def keys (members : Members) : List Str :=
  members.map Prod.fst

/-- The members that are left when members are named one after the other. -/
def ofList (named : List (Str × Value)) : Members :=
  named.foldl (fun members m => put m.1 m.2 members) []

/-- A member is found where its name comes first. -/
theorem lookup_cons_eq_ite (key k : Str) (v : Value) (members : Members) :
    List.lookup key ((k, v) :: members) = if key = k then some v else List.lookup key members := by
  rw [List.lookup_cons]
  by_cases h : key = k
  · simp [h]
  · simp [h, beq_eq_false_iff_ne.2 h]

/-- **The last naming wins**, and all other members stay as they are. -/
theorem lookup_put (key k : Str) (value : Value) (members : Members) :
    List.lookup k (put key value members) =
      if k = key then some value else List.lookup k members := by
  induction members with
  | nil => by_cases h : k = key <;> simp [put, List.lookup_cons, h, beq_eq_false_iff_ne.2]
  | cons m rest ih =>
      obtain ⟨n, v⟩ := m
      by_cases hn : n = key
      · by_cases hk : k = key <;> simp [put, hn, hk, List.lookup_cons, beq_eq_false_iff_ne.2]
      · by_cases hk : k = key
        · subst hk
          simp [put, hn, List.lookup_cons, beq_eq_false_iff_ne.2 (Ne.symm hn), ih]
        · simp [put, hn, hk, List.lookup_cons, ih]

/-- Naming a member keeps the names in order, and adds the name at the end if it is new. -/
theorem keys_put (key : Str) (value : Value) (members : Members) :
    keys (put key value members) =
      if key ∈ keys members then keys members else keys members ++ [key] := by
  induction members with
  | nil => simp [put, keys]
  | cons m rest ih =>
      obtain ⟨n, v⟩ := m
      by_cases hn : n = key
      · simp [put, keys, hn]
      · have hne : key ≠ n := Ne.symm hn
        simp only [keys] at ih
        by_cases hk : key ∈ rest.map Prod.fst <;> simp [put, keys, hn, hne, hk, ih]

theorem nodup_keys_put (key : Str) (value : Value) {members : Members}
    (h : (keys members).Nodup) : (keys (put key value members)).Nodup := by
  rw [keys_put]
  split
  · exact h
  · next hk =>
      exact List.nodup_append.2 ⟨h, by simp, fun a ha b hb => by
        rw [List.mem_singleton] at hb
        exact fun hab => hk (hb ▸ hab ▸ ha)⟩

/-- No name occurs twice. -/
theorem nodup_keys_ofList (named : List (Str × Value)) : (keys (ofList named)).Nodup := by
  suffices h : ∀ members : Members, (keys members).Nodup →
      (keys (named.foldl (fun members m => put m.1 m.2 members) members)).Nodup from
    h [] (by simp [keys])
  induction named with
  | nil => intro members h; exact h
  | cons m rest ih => intro members h; exact ih _ (nodup_keys_put m.1 m.2 h)

/-- A name that is not there yet goes to the end. -/
theorem put_of_not_mem {key : Str} {members : Members} (value : Value)
    (h : key ∉ keys members) : put key value members = members ++ [(key, value)] := by
  induction members with
  | nil => rfl
  | cons m rest ih =>
      obtain ⟨n, v⟩ := m
      simp only [keys, List.map_cons, List.mem_cons, not_or] at h
      simp [put, Ne.symm h.1, ih h.2]

end Members

end BucketAccess.Json
