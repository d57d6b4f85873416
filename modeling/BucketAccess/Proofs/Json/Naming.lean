/-
**Members that are named more than once.**

The members of an object are put together one at a time, and naming one again changes what is there
already.  What comes out of it in the end can be told without going through the steps: every name
stands where it comes up first, and it has the value that is given to it last.

Main definitions:

* `BucketAccess.Json.lastNamed?` — the value that is given to a name last;
* `BucketAccess.Json.lastNamed` — the members that are left of all that are named.

Main results:

* `BucketAccess.Json.Members.ofList_eq_lastNamed` — **naming members one after the other leaves
  these**.
-/

import BucketAccess.Json.Value

set_option relaxedAutoImplicit false
set_option autoImplicit false

namespace BucketAccess.Json

open BucketAccess.Text (Str)

/-- The value that is given to a name last. -/
def lastNamed? {α : Type} (key : Str) (named : List (Str × α)) : Option α :=
  (named.filter (·.1 = key)).getLast?.map Prod.snd

/-- The members that are left of all that are named: each name where it comes up first, with the
value that is given to it last. -/
def lastNamed {α : Type} (named : List (Str × α)) : List (Str × α) :=
  (named.map Prod.fst).eraseDups.filterMap fun key => (lastNamed? key named).map (key, ·)

theorem lastNamed?_cons {α : Type} (key : Str) (m : Str × α) (rest : List (Str × α)) :
    lastNamed? key (m :: rest) =
      (lastNamed? key rest).or (if m.1 = key then some m.2 else none) := by
  unfold lastNamed?
  rw [List.filter_cons]
  by_cases h : m.1 = key
  · simp [h, List.getLast?_cons]
  · simp [h]

theorem lastNamed?_eq_none_iff {α : Type} {key : Str} {named : List (Str × α)} :
    lastNamed? key named = none ↔ key ∉ named.map Prod.fst := by
  rw [lastNamed?, Option.map_eq_none_iff, List.getLast?_eq_none_iff, List.filter_eq_nil_iff]
  simp only [decide_eq_true_eq, List.mem_map, not_exists, not_and]

/-! ### Names with values -/

section Values

variable {α : Type} {value? : Str → Option α} {keys : List Str}

/-- Names that are all given a value stay in order. -/
theorem map_fst_filterMap (h : ∀ key ∈ keys, value? key ≠ none) :
    (keys.filterMap fun key => (value? key).map (key, ·)).map Prod.fst = keys := by
  induction keys with
  | nil => rfl
  | cons key rest ih =>
      obtain ⟨hfirst, hrest⟩ := List.forall_mem_cons.1 h
      obtain ⟨v, hvalue⟩ := Option.ne_none_iff_exists'.1 hfirst
      simp [hvalue, ih hrest]

/-- Looking up a name among names that are given their values in a row. -/
theorem lookup_filterMap (k : Str) :
    List.lookup k (keys.filterMap fun key => (value? key).map (key, ·)) =
      if k ∈ keys then value? k else none := by
  induction keys with
  | nil => rfl
  | cons key rest ih =>
      by_cases hk : k = key
      · subst hk
        cases hvalue : value? k with
        | none => simp [hvalue, ih]
        | some v => simp [hvalue]
      · have hbeq : (k == key) = false := by simpa using hk
        cases hvalue : value? key with
        | none => simp [hvalue, ih, hk]
        | some v => simp [hvalue, ih, hk, List.lookup_cons, hbeq]

end Values

/-! ### Members -/

namespace Members

/-- Members are known by their names in order and the value of each name. -/
theorem eq_of_lookup {members other : Members} (hkeys : members.keys = other.keys)
    (hnodup : members.keys.Nodup) (h : ∀ k, List.lookup k members = List.lookup k other) :
    members = other := by
  induction members generalizing other with
  | nil =>
      cases other with
      | nil => rfl
      | cons m rest => simp [keys] at hkeys
  | cons m rest ih =>
      obtain ⟨key, v⟩ := m
      cases other with
      | nil => simp [keys] at hkeys
      | cons m' rest' =>
          obtain ⟨key', v'⟩ := m'
          obtain ⟨rfl, hrest⟩ : key = key' ∧ keys rest = keys rest' := by
            simpa [keys] using hkeys
          obtain ⟨hnew, hnodup⟩ : key ∉ keys rest ∧ (keys rest).Nodup := by
            simpa [keys] using hnodup
          obtain rfl : v = v' := by simpa [List.lookup_cons] using h key
          refine congrArg ((key, v) :: ·) (ih hrest hnodup ?_)
          intro k
          by_cases hk : k = key
          · have hnone : ∀ ms : Members, key ∉ keys ms → List.lookup key ms = none := by
              intro ms hms
              refine List.lookup_eq_none_iff.2 ?_
              intro p hp
              simpa using fun hkey : key = p.1 => hms (hkey ▸ List.mem_map_of_mem hp)
            rw [hk, hnone rest hnew, hnone rest' (hrest ▸ hnew)]
          · have hbeq : (k == key) = false := by simpa using hk
            simpa [List.lookup_cons, hbeq] using h k

theorem lookup_ofList (k : Str) (named : List (Str × Value)) :
    List.lookup k (ofList named) = lastNamed? k named := by
  suffices hfold : ∀ members : Members,
      List.lookup k (named.foldl (fun members m => put m.1 m.2 members) members) =
        (lastNamed? k named).or (List.lookup k members) by
    rw [ofList, hfold, List.lookup_nil, Option.or_none]
  induction named with
  | nil => exact fun _ => rfl
  | cons m rest ih =>
      intro members
      rw [List.foldl_cons, ih, lookup_put, lastNamed?_cons, Option.or_assoc]
      by_cases hk : k = m.1
      · simp [hk]
      · simp [hk, Ne.symm hk]

theorem keys_ofList (named : List (Str × Value)) :
    keys (ofList named) = (named.map Prod.fst).eraseDups := by
  suffices hfold : ∀ members : Members,
      keys (named.foldl (fun members m => put m.1 m.2 members) members) =
        keys members ++ ((named.map Prod.fst).filter (· ∉ keys members)).eraseDups by
    have hall := hfold []
    rw [List.filter_eq_self.2 (by simp [keys])] at hall
    exact hall
  induction named with
  | nil => simp
  | cons m rest ih =>
      intro members
      rw [List.foldl_cons, ih, keys_put, List.map_cons, List.filter_cons]
      by_cases hmem : m.1 ∈ keys members
      · simp [hmem]
      · rw [if_neg hmem, if_pos (by simpa using hmem), List.eraseDups_cons, List.filter_filter,
          List.append_assoc, List.singleton_append]
        congr 3
        refine List.filter_congr ?_
        intro key _
        by_cases hkey : key = m.1
        · simp [hkey]
        · have hbeq : (key == m.1) = false := by simpa using hkey
          simp [hkey, hbeq]

/-- **Naming members one after the other** leaves each name where it comes up first, with the value
that is given to it last. -/
theorem ofList_eq_lastNamed (named : List (Str × Value)) : ofList named = lastNamed named := by
  have hkeys : keys (lastNamed named) = (named.map Prod.fst).eraseDups := by
    refine map_fst_filterMap ?_
    intro key hkey hnone
    exact lastNamed?_eq_none_iff.1 hnone (List.mem_eraseDups.1 hkey)
  refine eq_of_lookup ((keys_ofList named).trans hkeys.symm) (nodup_keys_ofList named) ?_
  intro k
  rw [lookup_ofList, lastNamed, lookup_filterMap]
  split
  · rfl
  · next hk => exact lastNamed?_eq_none_iff.2 fun hmem => hk (List.mem_eraseDups.2 hmem)

end Members

end BucketAccess.Json
