/-
**The document of a policy that is made.**

All that a policy is made from besides its condition is text, so what can be said of its document
depends on the condition: whether it is well formed, how deep it is nested and whether it holds an
infinite number.

Main results:

* `BucketAccess.Policy.Draft.wellFormed_document`, `BucketAccess.Policy.Draft.depth_document_le`,
  `BucketAccess.Policy.Draft.excluded?_document` — **the document as far as its condition decides**;
* `BucketAccess.Policy.Draft.conditionOf_of_ofOrder`,
  `BucketAccess.Policy.Draft.wellFormed_condition` — the condition is the one of the order, and it
  has been read.
-/

import BucketAccess.Proofs.Json.RoundTrip
import BucketAccess.Policy.Draft

set_option relaxedAutoImplicit false
set_option autoImplicit false

namespace BucketAccess.Policy.Draft

open BucketAccess.Json (Value Members)
open BucketAccess.Text (Str)

/-! ### Conditions -/

/-- The condition of a policy is the condition of its order. -/
theorem conditionOf_of_ofOrder {limit : Nat} {sid : String} {order : Order} {d : Draft}
    (h : ofOrder limit sid order = .ok d) :
    conditionOf limit order.condition = .ok d.condition := by
  unfold ofOrder at h
  split at h
  · simp at h
  · cases hcondition : conditionOf limit order.condition with
    | error failure => simp [hcondition, Except.map] at h
    | ok condition =>
        simp only [hcondition, Except.map, Except.ok.injEq] at h
        rw [← h]

/-- A condition has been read. -/
theorem wellFormed_condition {limit : Nat} {typed : Option String} {c : Value}
    (h : conditionOf limit typed = .ok (some c)) : c.WellFormed := by
  cases typed with
  | none => simp [conditionOf] at h
  | some text =>
      simp only [conditionOf] at h
      split at h
      · simp at h
      · cases hread : Json.read limit text with
        | error fault => simp [hread] at h
        | ok v =>
            obtain rfl : v = c := by simpa [hread] using h
            exact Json.wellFormed_of_read hread

/-! ### Texts and lists of them -/

/-- Values that are made of text alone, nested at most twice. -/
structure Plain (v : Value) : Prop where
  wellFormed : v.WellFormed
  depth : v.depth ≤ 2
  excluded? : v.excluded? = none

theorem plain_str (s : String) : Plain (.str s) :=
  ⟨.str (Json.isJoined_coe s), by simp [Value.depth], by simp [Value.excluded?]⟩

theorem plain_writtenEffect (effect : Option String) : Plain (writtenEffect effect) := by
  cases effect with
  | none =>
      exact ⟨.null, by simp [writtenEffect, Value.depth], by simp [writtenEffect, Value.excluded?]⟩
  | some text => exact plain_str text

/-- A list of plain values that are nested at most once is plain, on its own or as an array. -/
theorem plain_collapsed {items : List Value} (hitems : ∀ v ∈ items, Plain v)
    (hdepth : ∀ v ∈ items, v.depth ≤ 1) : Plain (collapsed items) := by
  have harr : Plain (.arr items) := by
    refine ⟨.arr fun v hv => (hitems v hv).wellFormed, ?_, ?_⟩
    · rw [Value.depth]
      exact Nat.succ_le_succ (Json.depthOfItems_le_iff.2 hdepth)
    · rw [Value.excluded?, Json.excludedItem?_eq, List.findSome?_eq_none_iff]
      exact fun v hv => (hitems v hv).excluded?
  unfold collapsed
  split
  · next v => exact hitems v (by simp)
  · exact harr

theorem plain_actions (actions : List Action) :
    Plain (collapsed (actions.map Action.document)) := by
  have hall : ∀ v ∈ actions.map Action.document, Plain v ∧ v.depth ≤ 1 := by
    intro v hv
    obtain ⟨action, _, rfl⟩ := List.mem_map.1 hv
    cases action with
    | named name => exact ⟨plain_str name, by simp [Action.document, Value.depth]⟩
    | blank =>
        refine ⟨⟨.arr (by simp), ?_, ?_⟩, ?_⟩ <;>
          simp [Action.document, Value.depth, Json.depthOfItems, Value.excluded?,
            Json.excludedItem?]
  exact plain_collapsed (fun v hv => (hall v hv).1) fun v hv => (hall v hv).2

theorem plain_resources (resources : List String) :
    Plain (collapsed (resources.map fun resource : String => .str resource)) := by
  have hall : ∀ v ∈ resources.map (fun resource : String => Value.str resource),
      Plain v ∧ v.depth ≤ 1 := by
    intro v hv
    obtain ⟨text, _, rfl⟩ := List.mem_map.1 hv
    exact ⟨plain_str text, by simp [Value.depth]⟩
  exact plain_collapsed (fun v hv => (hall v hv).1) fun v hv => (hall v hv).2

/-! ### Documents -/

/-- The members of the statement besides the condition. -/
def plainMembers (d : Draft) : Members :=
  [("Sid", .str d.sid), ("Effect", writtenEffect d.effect),
    ("Action", collapsed (d.actions.map Action.document)),
    ("Resource", collapsed (d.resources.map fun resource : String => .str resource))]

theorem plain_of_mem_plainMembers {d : Draft} {m : Str × Value} (h : m ∈ d.plainMembers) :
    Plain m.2 := by
  simp only [plainMembers, List.mem_cons, List.not_mem_nil, or_false] at h
  rcases h with rfl | rfl | rfl | rfl
  · exact plain_str _
  · exact plain_writtenEffect _
  · exact plain_actions _
  · exact plain_resources _

theorem statement_eq (d : Draft) :
    d.statement =
      .obj (d.plainMembers ++ (d.condition.map fun c => (("Condition" : Str), c)).toList) := rfl

/-- The document is well formed when its condition is. -/
theorem wellFormed_document {d : Draft} (h : ∀ c, d.condition = some c → c.WellFormed) :
    d.document.WellFormed := by
  have hstatement : d.statement.WellFormed := by
    rw [statement_eq]
    refine .obj ?_ (fun m hm => ?_) fun m hm => ?_
    · cases d.condition <;> simp [plainMembers, Json.Members.keys]
    · cases d.condition <;> revert m <;> simp [plainMembers, Json.isJoined_coe]
    · rcases List.mem_append.1 hm with hm | hm
      · exact (plain_of_mem_plainMembers hm).wellFormed
      · obtain ⟨c, hc, rfl⟩ := Option.map_eq_some_iff.1 (Option.mem_toList.1 hm)
        exact h c hc
  refine .obj (by simp [Json.Members.keys]) (by simp [Json.isJoined_coe]) fun m hm => ?_
  simp only [List.mem_cons, List.not_mem_nil, or_false] at hm
  rcases hm with rfl | rfl
  · exact .str (Json.isJoined_coe _)
  · exact .arr (by simpa using hstatement)

/-- The document has three containers around the condition, and is not deep without it. -/
theorem depth_document_le {d : Draft} {n : Nat} (hn : 5 ≤ n)
    (h : ∀ c, d.condition = some c → c.depth + 3 ≤ n) : d.document.depth ≤ n := by
  have hstatement : d.statement.depth ≤ n - 2 := by
    have hmembers : Json.depthOfMembers
        (d.plainMembers ++ (d.condition.map fun c => (("Condition" : Str), c)).toList) ≤
          n - 3 := by
      refine Json.depthOfMembers_le_iff.2 fun m hm => ?_
      rcases List.mem_append.1 hm with hm | hm
      · have := (plain_of_mem_plainMembers hm).depth
        omega
      · obtain ⟨c, hc, rfl⟩ := Option.map_eq_some_iff.1 (Option.mem_toList.1 hm)
        have := h c hc
        simp only
        omega
    rw [statement_eq, Value.depth]
    omega
  have hdocument : d.document.depth = d.statement.depth + 2 := by
    simp [document, Value.depth, Json.depthOfMembers, Json.depthOfItems]
  omega

/-- The first infinite number of the document is the first one of the condition. -/
theorem excluded?_document (d : Draft) :
    d.document.excluded? = d.condition.bind Value.excluded? := by
  have hplain : d.plainMembers.findSome? (fun m => m.2.excluded?) = none :=
    List.findSome?_eq_none_iff.2 fun m hm => (plain_of_mem_plainMembers hm).excluded?
  have hstatement : d.statement.excluded? = d.condition.bind Value.excluded? := by
    rw [statement_eq, Value.excluded?, Json.excludedMember?_eq, List.findSome?_append, hplain]
    cases d.condition <;> simp
  simp [document, Value.excluded?, Json.excludedMember?, Json.excludedItem?, hstatement]

end BucketAccess.Policy.Draft
