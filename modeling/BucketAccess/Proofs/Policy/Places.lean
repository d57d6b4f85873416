/-
**Where findings are made.**

What is found in a part of a policy depends on the part alone: where it stands is told by the place
of each finding and by nothing else.  So a check that is made at a longer way into the policy finds
what it finds at the shorter one, with the places moved.  Statements are told apart by their
position only, and the message of a finding about one of them starts with it.

Main definitions:

* `BucketAccess.Policy.Finding.under` — a finding moved under a place;
* `BucketAccess.Policy.Moves` — checks that find the same wherever they are made.

Main results:

* `BucketAccess.Policy.moves_entryFindings`, `BucketAccess.Policy.moves_listFindings` — checks of
  lists move when the check of an entry does;
* `BucketAccess.Policy.moves_statementFindings` — **what is found in a statement does not depend on
  where it stands**;
* `BucketAccess.Policy.listedFindings_congr`, `BucketAccess.Policy.choiceFindings_congr` — fields
  that are read alike;
* `BucketAccess.Policy.message_under_statementAt` — how a finding about a statement is told.
-/

import BucketAccess.Policy.Review
import Mathlib.Data.List.Basic
import Mathlib.Data.List.Forall2

set_option relaxedAutoImplicit false
set_option autoImplicit false

namespace BucketAccess.Policy

open BucketAccess.Json BucketAccess.Text

/-! ### Moving findings -/

/-- A finding moved under a place. -/
def Finding.under (base : List Step) (f : Finding) : Finding :=
  ⟨base ++ f.place, f.problem⟩

@[simp] theorem Finding.place_under (base : List Step) (f : Finding) :
    (f.under base).place = base ++ f.place := rfl

@[simp] theorem Finding.under_mk (base place : List Step) (problem : Problem) :
    Finding.under base ⟨place, problem⟩ = ⟨base ++ place, problem⟩ := rfl

/-- A check that finds the same wherever it is made. -/
def Moves {α : Type} (check : List Step → α → List Finding) : Prop :=
  ∀ base place a, check (base ++ place) a = (check place a).map (Finding.under base)

@[simp] theorem map_under_findingIf (base : List Step) (condition : Bool) (place : List Step)
    (problem : Problem) : (findingIf condition place problem).map (Finding.under base) =
      findingIf condition (base ++ place) problem := by
  cases condition <;> rfl

/-- What is found in the entries of a list, entry by entry. -/
theorem entryFindings_eq_flatMap (place : List Step) (check : List Step → Value → List Finding)
    (items : List Value) : entryFindings place check items =
      items.zipIdx.flatMap fun m => check (place ++ [.index m.2]) m.1 := by
  rw [entryFindings, List.mapIdx_eq_zipIdx_map, ← List.flatMap_def]

/-- What is found in two lists is alike when it is in each two entries at one position. -/
theorem rel_flatMap_zipIdx {α β : Type} {R : α → α → Prop} {S : List β → List β → Prop}
    (hnil : S [] [])
    (happend : ∀ found found' more more', S found found' → S more more' →
      S (found ++ more) (found' ++ more'))
    {xs ys : List α} (h : List.Forall₂ R xs ys) {f : α × Nat → List β}
    (hf : ∀ x y i, R x y → S (f (x, i)) (f (y, i))) (n : Nat) :
    S ((xs.zipIdx n).flatMap f) ((ys.zipIdx n).flatMap f) := by
  induction h generalizing n with
  | nil => exact hnil
  | @cons x y _ _ hxy _ ih =>
      rw [List.zipIdx_cons, List.zipIdx_cons, List.flatMap_cons, List.flatMap_cons]
      exact happend _ _ _ _ (hf x y n hxy) (ih (n + 1))

theorem moves_entryFindings {check : List Step → Value → List Finding} (h : Moves check) :
    Moves fun place items => entryFindings place check items := by
  intro base place items
  simp only [entryFindings_eq_flatMap, List.append_assoc, h base, List.map_flatMap]

theorem moves_listFindings {check : List Step → Value → List Finding} (h : Moves check) :
    Moves fun place v => listFindings place check v := by
  intro base place v
  simp only [listFindings]
  split
  · rfl
  · exact moves_entryFindings h base place (entries v)

/-! ### Actions, resources and conditions -/

theorem moves_actionFindings : Moves actionFindings := by
  intro base place v
  unfold actionFindings
  split
  · split
    · split <;> simp
    · rfl
  · rfl

theorem moves_bucketFindings : Moves bucketFindings := by
  intro base place rest
  unfold bucketFindings
  split
  · rfl
  · split <;> simp

theorem moves_resourceFindings : Moves resourceFindings := by
  intro base place v
  unfold resourceFindings
  split
  · split
    · rfl
    · split
      · exact moves_bucketFindings base place _
      · rfl
  · rfl

theorem moves_operatorFindings (operator : Str) :
    Moves fun place block => operatorFindings place operator block := by
  intro base place block
  -- the definition is opened as a whole; its equations by cases would be costly
  unfold operatorFindings
  beta_reduce
  split <;> simp

theorem moves_conditionFindings : Moves conditionFindings := by
  intro base place v
  unfold conditionFindings
  split
  · simp only [List.map_flatMap, moves_operatorFindings _ base place]
  · rfl

/-! ### Principals -/

theorem moves_identityFindings : Moves identityFindings := by
  intro base place v
  unfold identityFindings
  split
  · split
    · rfl
    · split <;> simp
  · rfl

theorem moves_serviceFindings : Moves serviceFindings := by
  intro base place v
  unfold serviceFindings
  split <;> simp

theorem moves_listedFindings {check : List Step → Value → List Finding} (h : Moves check)
    (key : Str) : Moves fun place members => listedFindings place members key check := by
  intro base place members
  simp only [listedFindings]
  split
  · rw [List.append_assoc]
    exact moves_entryFindings h base _ _
  · rfl

theorem moves_principalFindings : Moves principalFindings := by
  intro base place v
  have haws := moves_listedFindings moves_identityFindings "AWS" base place
  have hservice := moves_listedFindings moves_serviceFindings "Service" base place
  unfold principalFindings
  split
  · split <;> rfl
  · simp only [haws, hservice, List.map_append, List.map_flatMap, map_under_findingIf]
  · rfl

/-! ### Statements -/

theorem moves_sidFindings : Moves sidFindings := by
  intro base place members
  unfold sidFindings
  split <;> simp

theorem moves_effectFindings : Moves effectFindings := by
  intro base place members
  unfold effectFindings
  split
  · rfl
  · split <;> simp
  · rfl

theorem moves_principalFieldFindings (inside : Bool) (field : String) :
    Moves fun place members => principalFieldFindings inside place members field := by
  intro base place members
  simp only [principalFieldFindings, List.append_assoc, moves_principalFindings base]
  cases present? members field with
  | none => rfl
  | some v => cases inside <;> rfl

theorem moves_choiceFindings {check : List Step → Value → List Finding} (h : Moves check)
    (field negated : String) :
    Moves fun place members => choiceFindings place members field negated check := by
  intro base place members
  have hfield : ∀ key v, listFindings (base ++ place ++ [.member key]) check v =
      (listFindings (place ++ [.member key]) check v).map (Finding.under base) := by
    intro key v
    rw [List.append_assoc]
    exact moves_listFindings h base _ v
  simp only [choiceFindings, List.map_append, List.map_flatMap, map_under_findingIf, hfield]
  congr 1
  refine List.flatMap_congr fun key _ => ?_
  cases present? members key <;> rfl

theorem moves_conditionFieldFindings : Moves conditionFieldFindings := by
  intro base place members
  unfold conditionFieldFindings
  split
  · rw [List.append_assoc]
    exact moves_conditionFindings base _ _
  · rfl

theorem moves_unknownFieldFindings : Moves unknownFieldFindings := by
  intro base place members
  simp only [unknownFieldFindings, List.map_flatMap, map_under_findingIf]

/-- **What is found in a statement does not depend on where it stands.** -/
theorem moves_statementFindings (inside : Bool) : Moves (statementFindings inside) := by
  intro base place v
  have hprincipal := fun field => moves_principalFieldFindings inside field base place
  have haction := moves_choiceFindings moves_actionFindings "Action" "NotAction" base place
  have hresource := moves_choiceFindings moves_resourceFindings "Resource" "NotResource" base place
  unfold statementFindings
  split
  · simp only [List.map_append, moves_sidFindings base place, moves_effectFindings base place,
      hprincipal, haction, hresource, moves_conditionFieldFindings base place,
      moves_unknownFieldFindings base place]
  · rfl

/-! ### Members that are read alike -/

section Values

variable {r r' : Value → Value → Prop} {found found' : Option Value}

/-- Two values are there and are related, or neither is there. -/
theorem cases_of_rel (h : Option.Rel r found found') :
    (found = none ∧ found' = none) ∨ ∃ v w, found = some v ∧ found' = some w ∧ r v w := by
  cases h with
  | none => exact .inl ⟨rfl, rfl⟩
  | some hvalue => exact .inr ⟨_, _, rfl, rfl, hvalue⟩

theorem rel_imp (h : ∀ v w, r v w → r' v w) (hrel : Option.Rel r found found') :
    Option.Rel r' found found' := by
  cases hrel with
  | none => exact .none
  | some hvalue => exact .some (h _ _ hvalue)

end Values

section Members

variable {check : List Step → Value → List Finding} {members others : Members}

/-- What is found in a list depends on what is found in its entries. -/
theorem listedFindings_congr (place : List Step) {key : Str}
    (h : Option.Rel
      (fun v w => ∀ place, entryFindings place check (entries v) =
        entryFindings place check (entries w))
      (present? members key) (present? others key)) :
    listedFindings place members key check = listedFindings place others key check := by
  unfold listedFindings
  rcases cases_of_rel h with ⟨hnone, hnone'⟩ | ⟨v, w, hsome, hsome', hvalue⟩
  · simp only [hnone, hnone']
  · simp only [hsome, hsome', hvalue]

/-- What is found in two fields depends on which are there and on what is found in them. -/
theorem choiceFindings_congr (place : List Step) {field negated : String}
    (h : ∀ key : String, key ∈ [field, negated] →
      Option.Rel (fun v w => ∀ place, listFindings place check v = listFindings place check w)
        (present? members key) (present? others key)) :
    choiceFindings place members field negated check =
      choiceFindings place others field negated check := by
  have hsome : ∀ key : String, key ∈ [field, negated] →
      (present? members key).isSome = (present? others key).isSome := by
    intro key hkey
    rcases cases_of_rel (h key hkey) with ⟨hnone, hnone'⟩ | ⟨v, w, hsome, hsome', -⟩
    · rw [hnone, hnone']
    · rw [hsome, hsome']
      rfl
  simp only [choiceFindings, hsome field (by simp), hsome negated (by simp)]
  congr 1
  refine List.flatMap_congr fun key hkey => ?_
  rcases cases_of_rel (h key hkey) with ⟨hnone, hnone'⟩ | ⟨v, w, hsome, hsome', hvalue⟩
  · simp only [hnone, hnone']
  · simp only [hsome, hsome', hvalue]

end Members

/-! ### The policy as a whole -/

/-- The problems that a policy can have as a whole when it has statements. -/
def Problem.IsAboutWhole : Problem → Prop
  | .versionMissing | .versionNotString | .versionUnknown _ | .versionLegacy
  | .unknownRootField _ | .idNotString => True
  | _ => False

/-- Findings about a policy as a whole. -/
def AboutWhole (findings : List Finding) : Prop :=
  ∀ f ∈ findings, f.place = [] ∧ f.problem.IsAboutWhole

theorem aboutWhole_findingIf {condition : Bool} {problem : Problem} (h : problem.IsAboutWhole) :
    AboutWhole (findingIf condition [] problem) := by
  cases condition <;> simp [AboutWhole, findingIf, h]

theorem aboutWhole_versionFindings (members : Members) : AboutWhole (versionFindings members) := by
  unfold versionFindings
  split
  · simp [AboutWhole, Problem.IsAboutWhole]
  · split
    · simp [AboutWhole, Problem.IsAboutWhole]
    · split
      · simp [AboutWhole, Problem.IsAboutWhole]
      · have hproblem : Problem.versionLegacy.IsAboutWhole := trivial
        exact aboutWhole_findingIf hproblem
  · simp [AboutWhole, Problem.IsAboutWhole]

theorem aboutWhole_unknownRootFindings (members : Members) :
    AboutWhole (unknownRootFindings members) := by
  intro f hf
  obtain ⟨key, -, hkey⟩ := List.mem_flatMap.1 hf
  have hproblem : (Problem.unknownRootField key).IsAboutWhole := trivial
  exact aboutWhole_findingIf hproblem f hkey

theorem aboutWhole_idFindings (members : Members) : AboutWhole (idFindings members) := by
  unfold idFindings
  split <;> simp [AboutWhole, Problem.IsAboutWhole]

/-- A message about a policy as a whole does not start like one about a statement. -/
theorem head_text_of_isAboutWhole {problem : Problem} (h : problem.IsAboutWhole) :
    problem.text.toList.head? ≠ some ('S' : Point) := by
  cases problem with
  | versionMissing => decide
  | versionNotString => decide
  | versionLegacy => decide
  | idNotString => decide
  | versionUnknown version =>
      have htext : (Problem.versionUnknown version).text = "Invalid Version: \"" ++ version ++
        "\". Must be \"2012-10-17\" or \"2008-10-17\"" := rfl
      simp [htext]
  | unknownRootField name =>
      have htext : (Problem.unknownRootField name).text = "Unknown root-level field: \"" ++ name ++
        "\"" := rfl
      simp [htext]
  | _ => exact h.elim

theorem head_message_of_aboutWhole {findings : List Finding} (h : AboutWhole findings)
    {f : Finding} (hf : f ∈ findings) : f.message.toList.head? ≠ some ('S' : Point) := by
  obtain ⟨hplace, hproblem⟩ := h f hf
  have hmessage : f.message = f.problem.text := by rw [Finding.message, hplace]
  rw [hmessage]
  exact head_text_of_isAboutWhole hproblem

/-! ### Statements in messages -/

/-- The way to the statement at a position. -/
def statementAt (i : Nat) : List Step :=
  [.member "Statement", .index i]

/-- How a finding about a statement is told, behind the statement. -/
def Finding.tail (f : Finding) : Str :=
  Str.join (f.place.map Step.text) ++ ": " ++ f.problem.text

/-- **How a finding about a statement is told.** -/
theorem message_under_statementAt (i : Nat) (f : Finding) :
    (f.under (statementAt i)).message = s!"Statement[{i}]" ++ f.tail := by
  have hopen : "Statement" ++ "[" = "Statement[" := by decide
  have hlead : (s!"Statement[{i}]" : Str) = "Statement" ++ (Step.index i).text := by
    have hnumber : s!"Statement[{i}]" = "Statement[" ++ toString i ++ "]" := rfl
    have hindex : (Step.index i).text = ("[" ++ toString i ++ "]" : String) := rfl
    rw [hnumber, hindex, ← hopen, ← Str.coe_append]
    simp only [String.append_assoc]
  have hplace : Place.text (statementAt i ++ f.place) =
      "Statement" ++ (Step.index i).text ++ Str.join (f.place.map Step.text) := by
    simp [statementAt, Place.text, Str.append_assoc]
  have hmessage : (f.under (statementAt i)).message =
      Place.text (statementAt i ++ f.place) ++ ": " ++ f.problem.text := rfl
  rw [hmessage, hplace, hlead, Finding.tail]
  simp only [Str.append_assoc]

/-- What is found in a statement, wherever it stands. -/
theorem statementFindings_at (inside : Bool) (i : Nat) (v : Value) :
    statementFindings inside (statementAt i) v =
      (statementFindings inside [] v).map (Finding.under (statementAt i)) :=
  moves_statementFindings inside (statementAt i) [] v

/-- **What is found in a list of statements**, statement by statement. -/
theorem entryFindings_statements (inside : Bool) (items : List Value) :
    entryFindings [.member "Statement"] (statementFindings inside) items =
      items.zipIdx.flatMap fun m =>
        (statementFindings inside [] m.1).map (Finding.under (statementAt m.2)) := by
  rw [entryFindings_eq_flatMap]
  exact List.flatMap_congr fun m _ => statementFindings_at inside m.2 m.1

end BucketAccess.Policy
