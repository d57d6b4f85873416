/-
**The order of members.**

The members of an object stand in an order, but a member is asked for by its name.  So two values
that differ in the order of members only, in whatever objects they contain, answer such questions
alike: the same names are there, and what is there under a name is alike again.

Main definitions:

* `BucketAccess.Json.Value.Reorders` — values that differ in the order of members, at any depth;
* `BucketAccess.Json.SameMembers` — members that are alike, one by one, in another order.

Main results:

* `BucketAccess.Json.SameMembers.lookup` — **what is found under a name is alike**;
* `BucketAccess.Json.SameMembers.keys_perm` — the names are the same;
* `BucketAccess.Json.SameMembers.flatMap_perm` — what is made of the members, one by one, is the
  same in another order.
-/

import BucketAccess.Json.Value
import Mathlib.Data.List.Forall2
import Mathlib.Data.List.Perm.Basic

set_option relaxedAutoImplicit false
set_option autoImplicit false

namespace BucketAccess.Json

open BucketAccess.Text (Str)

/-! ### Values in another order -/

/-- Members of one name whose values are alike. -/
inductive SameName (alike : Value → Value → Prop) : Str × Value → Str × Value → Prop
  | intro (key : Str) {v w : Value} (h : alike v w) : SameName alike (key, v) (key, w)

/-- Values that differ in the order of members, at any depth.  No name occurs twice in an object,
and its members are alike, one by one, when they are listed in another order. -/
inductive Value.Reorders : Value → Value → Prop
  | null : Reorders .null .null
  | bool (b : Bool) : Reorders (.bool b) (.bool b)
  | int (i : Int) : Reorders (.int i) (.int i)
  | real (x : Decimal.Double) : Reorders (.real x) (.real x)
  | str (s : Str) : Reorders (.str s) (.str s)
  | arr {items others : List Value} (h : List.Forall₂ Reorders items others) :
      Reorders (.arr items) (.arr others)
  | obj {members listed others : Members} (hnames : (Members.keys members).Nodup)
      (hperm : members.Perm listed) (h : List.Forall₂ (SameName Reorders) listed others) :
      Reorders (.obj members) (.obj others)

/-- Members that are alike, one by one, when they are listed in another order. -/
def SameMembers (alike : Value → Value → Prop) (members others : Members) : Prop :=
  (Members.keys members).Nodup ∧
    ∃ listed, members.Perm listed ∧ List.Forall₂ (SameName alike) listed others

/-! ### Members by name -/

/-- What is found under a name does not depend on the order when no name occurs twice. -/
theorem lookup_of_perm {members listed : Members} (h : members.Perm listed)
    (hnames : (Members.keys members).Nodup) (key : Str) :
    List.lookup key members = List.lookup key listed := by
  induction h with
  | nil => rfl
  | cons m _ ih =>
      have hrest := (List.nodup_cons.1 hnames).2
      rw [List.lookup_cons, List.lookup_cons, ih hrest]
  | swap m m' rest =>
      obtain ⟨name, v⟩ := m
      obtain ⟨name', w⟩ := m'
      have hne : name' ≠ name := by
        rintro rfl
        simp [Members.keys] at hnames
      simp only [List.lookup_cons]
      cases hname : key == name with
      | false => rfl
      | true =>
          have hname' : (key == name') = false :=
            beq_eq_false_iff_ne.2 fun heq => hne (heq.symm.trans (beq_iff_eq.1 hname))
          rw [hname']
  | trans hfirst _ ih ih' =>
      have hnames' := (hfirst.map Prod.fst).nodup_iff.1 hnames
      exact (ih hnames).trans (ih' hnames')

theorem lookup_of_forall₂ {alike : Value → Value → Prop} {listed others : Members}
    (h : List.Forall₂ (SameName alike) listed others) (key : Str) :
    Option.Rel alike (List.lookup key listed) (List.lookup key others) := by
  induction h with
  | nil => exact .none
  | cons hm _ ih =>
      obtain ⟨name, halike⟩ := hm
      rw [List.lookup_cons, List.lookup_cons]
      cases key == name with
      | true => exact .some halike
      | false => exact ih

namespace SameMembers

variable {alike : Value → Value → Prop} {members others : Members}

/-- **What is found under a name is alike.** -/
theorem lookup (h : SameMembers alike members others) (key : Str) :
    Option.Rel alike (List.lookup key members) (List.lookup key others) := by
  obtain ⟨hnames, listed, hperm, hlisted⟩ := h
  rw [lookup_of_perm hperm hnames]
  exact lookup_of_forall₂ hlisted key

/-- What is made of the members, one by one, is the same in another order. -/
theorem flatMap_perm {β : Type} (h : SameMembers alike members others)
    {f : Str × Value → List β}
    (hf : ∀ key v w, alike v w → f (key, v) = f (key, w)) :
    (members.flatMap f).Perm (others.flatMap f) := by
  obtain ⟨-, listed, hperm, hlisted⟩ := h
  refine (hperm.flatMap_right f).trans (List.Perm.of_eq ?_)
  clear hperm
  induction hlisted with
  | nil => rfl
  | cons hm _ ih =>
      obtain ⟨key, halike⟩ := hm
      rw [List.flatMap_cons, List.flatMap_cons, ih, hf key _ _ halike]

/-- The names are the same, in another order. -/
theorem keys_perm (h : SameMembers alike members others) :
    (Members.keys members).Perm (Members.keys others) := by
  have hkeys : ∀ m : Members, Members.keys m = m.flatMap fun p => [p.1] := by
    intro m
    rw [Members.keys, List.map_eq_flatMap]
  rw [hkeys, hkeys]
  exact h.flatMap_perm fun _ _ _ _ => rfl

end SameMembers

end BucketAccess.Json
