/-
**What reading gives.**

The values that are read are not all values there are: whole numbers have no more digits than are
accepted, other numbers have been rounded, no two halves in a string make a character, and no object
names a member twice.  Writing such a value
loses nothing, which is why they are set apart here.

Main definitions:

* `BucketAccess.Json.Value.WellFormed` — the values that can be read;
* `BucketAccess.Json.Value.depth` — how many containers are inside one another.

Main results:

* `BucketAccess.Json.wellFormed_of_run_value`, `BucketAccess.Json.wellFormed_of_read` — **every
  value that is read is well formed**.
-/

import BucketAccess.Json.Document
import BucketAccess.Proofs.Decimal.Printing
import BucketAccess.Proofs.Json.Text

set_option relaxedAutoImplicit false
set_option autoImplicit false

namespace BucketAccess.Json

open BucketAccess.Text (Str isDigit)

/-! ### Values -/

/-- The values that can be read. -/
inductive Value.WellFormed : Value → Prop where
  | null : WellFormed .null
  | bool (b : Bool) : WellFormed (.bool b)
  | int {i : Int} (h : (Decimal.digits i.natAbs).length ≤ maxDigits) : WellFormed (.int i)
  | real {x : Decimal.Double} (h : x.IsRounded) : WellFormed (.real x)
  | str {s : Str} (h : IsJoined s) : WellFormed (.str s)
  | arr {items : List Value} (h : ∀ v ∈ items, WellFormed v) : WellFormed (.arr items)
  | obj {members : Members} (hkeys : members.keys.Nodup) (hnames : ∀ m ∈ members, IsJoined m.1)
      (h : ∀ m ∈ members, WellFormed m.2) : WellFormed (.obj members)

mutual

/-- How many containers are inside one another. -/
def Value.depth : Value → Nat
  | .arr items => depthOfItems items + 1
  | .obj members => depthOfMembers members + 1
  | _ => 0

/-- The depth of the deepest item. -/
def depthOfItems : List Value → Nat
  | [] => 0
  | v :: rest => max v.depth (depthOfItems rest)

/-- The depth of the deepest member. -/
def depthOfMembers : List (Str × Value) → Nat
  | [] => 0
  | (_, v) :: rest => max v.depth (depthOfMembers rest)

end

theorem depthOfItems_le_iff {items : List Value} {n : Nat} :
    depthOfItems items ≤ n ↔ ∀ v ∈ items, v.depth ≤ n := by
  induction items with
  | nil => simp [depthOfItems]
  | cons v rest ih => simp [depthOfItems, ih]

theorem depthOfMembers_le_iff {members : Members} {n : Nat} :
    depthOfMembers members ≤ n ↔ ∀ m ∈ members, m.2.depth ≤ n := by
  induction members with
  | nil => simp [depthOfMembers]
  | cons m rest ih => simp [depthOfMembers, ih]

/-! ### Members -/

/-- What holds of the members and of a value holds of the members after naming one. -/
theorem Members.forall_mem_put {p : Str × Value → Prop} {key : Str} {v : Value}
    {members : Members} (hv : p (key, v)) (h : ∀ m ∈ members, p m) :
    ∀ m ∈ members.put key v, p m := by
  induction members with
  | nil => simpa [put] using hv
  | cons m rest ih =>
      have hrest : ∀ m ∈ rest, p m := by
        intro m hm
        exact h m (List.mem_cons_of_mem _ hm)
      simp only [put]
      split
      · exact List.forall_mem_cons.2 ⟨hv, hrest⟩
      · exact List.forall_mem_cons.2 ⟨h m (by simp), ih hrest⟩

theorem Members.forall_mem_ofList {p : Str × Value → Prop} {named : List (Str × Value)}
    (h : ∀ m ∈ named, p m) : ∀ m ∈ ofList named, p m := by
  suffices hfold : ∀ members : Members, (∀ m ∈ members, p m) →
      ∀ m ∈ named.foldl (fun members m => members.put m.1 m.2) members, p m from
    hfold [] (by simp)
  induction named with
  | nil => exact fun _ hmembers => hmembers
  | cons m rest ih =>
      intro members hmembers
      exact ih (fun m hm => h m (List.mem_cons_of_mem _ hm)) _
        (forall_mem_put (h m (by simp)) hmembers)

/-- Members with names of their own are all kept as they are named. -/
theorem Members.ofList_of_nodup {members : Members} (h : members.keys.Nodup) :
    ofList members = members := by
  suffices hfold : ∀ before : Members, (keys (before ++ members)).Nodup →
      members.foldl (fun members m => members.put m.1 m.2) before = before ++ members from
    hfold [] (by simpa using h)
  clear h
  induction members with
  | nil => simp
  | cons m rest ih =>
      intro before hbefore
      have hnew : m.1 ∉ keys before := by
        simp only [keys, List.map_append, List.map_cons, List.nodup_append] at hbefore
        exact fun hmem => hbefore.2.2 _ hmem _ (by simp) rfl
      rw [List.foldl_cons, put_of_not_mem _ hnew, ih _ (by simpa using hbefore)]
      simp

/-! ### Numbers -/

theorem Numeral.digits_of_takeWhole? {s whole rest : List Char}
    (h : takeWhole? s = some (whole, rest)) :
    whole ≠ [] ∧ ∀ c ∈ whole, isDigit c = true := by
  cases s with
  | nil => simp [takeWhole?] at h
  | cons c more =>
      simp only [takeWhole?] at h
      split at h
      · obtain ⟨rfl, -⟩ : ['0'] = whole ∧ more = rest := by simpa using h
        exact ⟨by simp, by simp; decide⟩
      · split at h
        · next hc =>
            obtain ⟨rfl, -⟩ :
                c :: more.takeWhile isDigit = whole ∧ more.dropWhile isDigit = rest := by
              simpa using h
            exact ⟨by simp, List.forall_mem_cons.2 ⟨hc, List.all_eq_true.1 List.all_takeWhile⟩⟩
        · simp at h

theorem Numeral.digits_of_take? {s rest : List Char} {n : Numeral}
    (h : take? s = some (n, rest)) : n.whole ≠ [] ∧ ∀ c ∈ n.whole, isDigit c = true := by
  simp only [take?, Option.map_eq_some_iff, Prod.mk.injEq, Prod.exists] at h
  obtain ⟨whole, _, hwhole, rfl, _⟩ := h
  exact digits_of_takeWhole? hwhole

/-- What a number stands for has no more digits than are accepted, or has been rounded. -/
theorem Numeral.wellFormed_value {n : Numeral} {v : Value} (hne : n.whole ≠ [])
    (hdigits : ∀ c ∈ n.whole, isDigit c = true) (h : n.value = .ok v) : v.WellFormed := by
  simp only [value] at h
  split at h
  · split at h
    · simp at h
    · next hfew =>
        obtain rfl := Except.ok.inj h
        have hlength := Decimal.length_digits_value_le hne hdigits
        refine .int ?_
        split <;> simp only [Int.natAbs_neg, Int.natAbs_natCast] <;> omega
  · obtain rfl := Except.ok.inj h
    exact .real (Decimal.Double.isRounded_ofDecimal _ _ _)

/-! ### Reading -/

theorem wellFormed_of_atom {s rest : List Char} {v : Value} (h : atom s = .ok (v, rest)) :
    v.WellFormed := by
  unfold atom at h
  split at h
  · next found hword =>
      obtain ⟨⟨word, w⟩, hmem, hfound⟩ := List.exists_of_findSome?_eq_some hword
      obtain ⟨_, _, rfl⟩ := Option.map_eq_some_iff.1 hfound
      obtain ⟨rfl, -⟩ := Prod.mk.inj (Except.ok.inj h)
      have hwords : w = .null ∨ w = .bool true ∨ w = .bool false := by
        simp only [words, List.mem_cons, Prod.mk.injEq, List.not_mem_nil, or_false] at hmem
        rcases hmem with h | h | h
        · exact .inl h.2
        · exact .inr (.inl h.2)
        · exact .inr (.inr h.2)
      rcases hwords with rfl | rfl | rfl
      · exact .null
      · exact .bool true
      · exact .bool false
  · split at h
    · simp at h
    · split at h
      · simp [mistake] at h
      · next n after htake =>
          obtain ⟨hne, hdigits⟩ := Numeral.digits_of_take? htake
          cases hvalue : n.value with
          | error fault => simp [hvalue, Except.map] at h
          | ok w =>
              simp only [hvalue, Except.map, Except.ok.injEq, Prod.mk.injEq] at h
              exact h.1 ▸ Numeral.wellFormed_value hne hdigits hvalue

theorem wellFormed_of_scalar {s rest : List Char} {v : Value} (h : scalar s = .ok (v, rest)) :
    v.WellFormed := by
  unfold scalar at h
  split at h
  · obtain ⟨text, hbody, rfl⟩ := Reading.map_eq_ok_iff.1 h
    exact .str (isJoined_of_stringBody hbody)
  · exact wellFormed_of_atom h

/-- What holds of all that a reader finds holds of all elements of a container. -/
theorem forall_mem_of_elements {α : Type} {element : Reader α} {close : Char} {p : α → Prop}
    (hp : ∀ {s rest a}, element.run s = .ok (a, rest) → p a) {s rest : List Char} {found : List α}
    (h : elements element close s = .ok (found, rest)) : ∀ a ∈ found, p a := by
  fun_induction elements element close s generalizing found rest with
  | case1 => simp at h
  | case2 => simp [mistake] at h
  | case3 s a after hrun r hafter =>
      obtain ⟨rfl, -⟩ := Prod.mk.inj (Except.ok.inj h)
      simpa using hp hrun
  | case4 s a after hrun r hafter _ ih =>
      obtain ⟨more, hmore, rfl⟩ := Reading.map_eq_ok_iff.1 h
      exact List.forall_mem_cons.2 ⟨hp hrun, ih hmore⟩
  | case5 => simp [mistake] at h

/-- The name of a member is a string that is read, and its value is one that the reader of values
finds. -/
theorem of_run_member {element : Reader Value} {p : Value → Prop}
    (hp : ∀ {s rest v}, element.run s = .ok (v, rest) → p v) {s rest : List Char}
    {m : Str × Value} (h : (member element).run s = .ok (m, rest)) : IsJoined m.1 ∧ p m.2 := by
  simp only [member] at h
  split at h
  · split at h
    · simp at h
    · next hkey =>
      split at h
      · obtain ⟨v, hrun, rfl⟩ := Reading.map_eq_ok_iff.1 h
        exact ⟨isJoined_of_stringBody hkey, hp hrun⟩
      · simp [mistake] at h
  · simp [mistake] at h

theorem wellFormed_of_array {element : Reader Value}
    (hp : ∀ {s rest v}, element.run s = .ok (v, rest) → v.WellFormed) {s rest : List Char}
    {v : Value} (h : array element s = .ok (v, rest)) : v.WellFormed := by
  unfold array at h
  split at h
  · obtain ⟨rfl, -⟩ := Prod.mk.inj (Except.ok.inj h)
    exact .arr (by simp)
  · obtain ⟨items, hitems, rfl⟩ := Reading.map_eq_ok_iff.1 h
    exact .arr (forall_mem_of_elements hp hitems)

theorem wellFormed_of_object {element : Reader Value}
    (hp : ∀ {s rest v}, element.run s = .ok (v, rest) → v.WellFormed) {s rest : List Char}
    {v : Value} (h : object element s = .ok (v, rest)) : v.WellFormed := by
  unfold object at h
  split at h
  · obtain ⟨rfl, -⟩ := Prod.mk.inj (Except.ok.inj h)
    exact .obj (by simp [Members.keys]) (by simp) (by simp)
  · obtain ⟨named, hnamed, rfl⟩ := Reading.map_eq_ok_iff.1 h
    have hmembers := Members.forall_mem_ofList
      (forall_mem_of_elements (of_run_member hp) hnamed)
    exact .obj (Members.nodup_keys_ofList named) (fun m hm => (hmembers m hm).1)
      fun m hm => (hmembers m hm).2

theorem wellFormed_of_valueWithin {element : Option (Reader Value)}
    (hp : ∀ reader, element = some reader → ∀ {s rest v}, reader.run s = .ok (v, rest) →
      v.WellFormed)
    {s rest : List Char} {v : Value} (h : (valueWithin element).run s = .ok (v, rest)) :
    v.WellFormed := by
  simp only [valueWithin] at h
  split at h
  · simp at h
  · simp at h
  · exact wellFormed_of_array (hp _ rfl) h
  · exact wellFormed_of_object (hp _ rfl) h
  · exact wellFormed_of_scalar h

/-- **Every value that is read is well formed.** -/
theorem wellFormed_of_run_value {n : Nat} {s rest : List Char} {v : Value}
    (h : (value n).run s = .ok (v, rest)) : v.WellFormed := by
  induction n generalizing s rest v with
  | zero => exact wellFormed_of_valueWithin (by simp) h
  | succ n ih =>
      refine wellFormed_of_valueWithin ?_ h
      rintro reader heq
      obtain rfl := Option.some.inj heq
      exact ih

theorem wellFormed_of_read {limit : Nat} {text : String} {v : Value}
    (h : read limit text = .ok v) : v.WellFormed := by
  have hdocument : document limit text.toList = .ok v := by
    unfold read at h
    cases hdoc : document limit text.toList with
    | error fault => simp [hdoc, Except.mapError] at h
    | ok w => simpa [hdoc, Except.mapError] using h
  unfold document at hdocument
  split at hdocument
  · simp at hdocument
  · split at hdocument
    · simp at hdocument
    · next hrun =>
        split at hdocument
        · exact Except.ok.inj hdocument ▸ wellFormed_of_run_value hrun
        · simp at hdocument

end BucketAccess.Json
