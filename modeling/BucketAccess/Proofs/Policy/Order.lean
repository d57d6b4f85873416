/-
**Policies made to order.**

A policy that is made to order is reviewed like any other document, and what the review says can be
told from the order: the policy is accepted exactly when each part of the order is sound, and the
only warnings are about its actions.  The name of the bucket has been checked before by rules of its
own; they leave nothing for the review to complain about.

Main definitions:

* `BucketAccess.Policy.IsPlainPath`, `BucketAccess.Policy.IsTypedCondition` — paths and typed
  conditions that the review accepts;
* `BucketAccess.Policy.IsSoundOrder` — orders that the review accepts;
* `BucketAccess.Policy.actionWarnings` — the warnings about a row of actions.

Main results:

* `BucketAccess.Policy.isStatement_statement_iff` — when the statement of a draft is well-formed;
* `BucketAccess.Policy.warningsOf_resourceFindings` — resources are never warned about;
* `BucketAccess.Policy.review_assemble` — **what the review of a policy to order says**.
-/

import BucketAccess.Generator
import BucketAccess.Proofs.Bucket.Name
import BucketAccess.Proofs.Policy.Acceptance
import BucketAccess.Proofs.Text.Points
import BucketAccess.Proofs.Work

set_option relaxedAutoImplicit false
set_option autoImplicit false

namespace BucketAccess.Policy

open BucketAccess.Json BucketAccess.Text

/-! ### Sound orders -/

/-- A path that can stand behind the name of a bucket: no slash at its start, and no two slashes
next to each other. -/
def IsPlainPath (path : String) : Prop :=
  path.toList.head? ≠ some '/' ∧ ¬ ['/', '/'] <:+: path.toList

/-- A typed condition that a statement may have: a blank one, or one that is null or a condition. -/
def IsTypedCondition (limit : Nat) (typed : Option String) : Prop :=
  ∀ text, typed = some text → strip text ≠ "" →
    ∃ v, Json.read limit text = .ok v ∧ (v = .null ∨ IsCondition v)

/-- An order, with an id for the statement, that makes a well-formed policy; its condition is read
as deep as a limit allows. -/
structure IsSoundOrder (limit : Nat) (sid : String) (effect : Option String)
    (actions : List String) (path condition : Option String) : Prop where
  effect_known : effect = some "Allow" ∨ effect = some "Deny"
  sid_alnum : ∀ c ∈ sid.toList, isAlnum c = true
  actions_qualified : ∀ a ∈ actions, ':' ∈ a.toList
  path_plain : (∀ a ∈ actions, ¬ "Object".toList <:+: a.toList) ∨ IsPlainPath (Draft.pathOf path)
  condition_sound : IsTypedCondition limit condition

/-! ### Lists as they stand in a policy -/

theorem oneOrMore_collapsed {P : Value → Prop} (texts : List String) :
    OneOrMore P (Draft.collapsed (texts.map fun t : String => .str t)) ↔
      texts ≠ [] ∧ ∀ t ∈ texts, P (.str t) := by
  match texts with
  | [] => simp [Draft.collapsed, OneOrMore]
  | [t] => simp [Draft.collapsed, OneOrMore, Each]
  | t :: u :: rest => simp [Draft.collapsed, OneOrMore, Each]

theorem map_document_named (actions : List String) :
    (actions.map Action.named).map Action.document =
      actions.map fun a : String => .str a := by
  simp [Action.document]

/-! ### Resources -/

/-- Two slashes next to each other in a path behind a name without slashes. -/
theorem doubleSlash_infix_iff {name : List Char} (hname : '/' ∉ name) (path : List Char) :
    ['/', '/'] <:+: name ++ '/' :: path ↔ path.head? = some '/' ∨ ['/', '/'] <:+: path := by
  induction name with
  | nil =>
      rw [List.nil_append, List.infix_cons_iff]
      refine or_congr_left ?_
      cases path with
      | nil => simp
      | cons c rest => simp [List.cons_prefix_cons, eq_comm]
  | cons c rest ih =>
      simp only [List.mem_cons, not_or] at hname
      rw [List.cons_append, List.infix_cons_iff, ih hname.2]
      simp [List.cons_prefix_cons, hname.1]

/-- What may follow the start of a resource, by the characters of a text. -/
theorem isBucketPart_coe_iff {rest : String} :
    IsBucketPart rest ↔ rest ≠ "" ∧ ¬ ['/', '/'] <:+: rest.toList ∧
      ('/' ∉ rest.toList → rest.length ≤ 63) := by
  have hslashes : [('/' : Point), '/'] <:+: (rest : Str).toList ↔ ['/', '/'] <:+: rest.toList :=
    infix_map_char_iff ['/', '/'] rest.toList
  have hslash : ('/' : Point) ∈ (rest : Str).toList ↔ '/' ∈ rest.toList := by simp
  have hlength : (rest : Str).toList.length = rest.length := by simp [String.length_toList]
  constructor
  · rintro ⟨hne, hsingle, hshort⟩
    rw [hslashes] at hsingle
    rw [hslash, hlength] at hshort
    exact ⟨mt Str.coe_inj.2 hne, hsingle, hshort⟩
  · rintro ⟨hne, hsingle, hshort⟩
    refine ⟨mt Str.coe_inj.1 hne, ?_, ?_⟩
    · rwa [hslashes]
    · rwa [hslash, hlength]

/-- A text that starts like a resource is one when the rest may follow. -/
theorem isResource_lead_iff {rest : String} :
    IsResource (.str (Catalog.bucketLead ++ rest : String)) ↔ IsBucketPart rest := by
  have hlead : Catalog.bucketLead = "arn:aws:s3:::" := rfl
  rw [IsResource, hlead, Str.coe_append]
  constructor
  · rintro (hall | ⟨other, hother, hpart⟩)
    · exact absurd (congrArg Str.toList hall) (by simp)
    · rwa [(Str.append_right_inj _).1 hother]
  · exact fun hpart => .inr ⟨rest, rfl, hpart⟩

theorem isResource_bucketResource {bucket : String} (h : (Bucket.review bucket).isValid = true) :
    IsResource (.str (bucketResource bucket)) := by
  have hslash := Bucket.slash_not_mem_of_isValid h
  refine isResource_lead_iff.2 (isBucketPart_coe_iff.2 ⟨Bucket.ne_empty_of_isValid h, ?_, fun _ =>
    Bucket.length_le_of_isValid h⟩)
  exact fun hslashes => hslash (hslashes.subset (by simp))

theorem objectResource_eq (bucket path : String) :
    objectResource bucket path = Catalog.bucketLead ++ (bucket ++ "/" ++ path) := by
  simp [objectResource, String.append_assoc]

theorem isResource_objectResource_iff {bucket : String}
    (h : (Bucket.review bucket).isValid = true) (path : String) :
    IsResource (.str (objectResource bucket path)) ↔ IsPlainPath path := by
  have hslash := Bucket.slash_not_mem_of_isValid h
  have hchars : (bucket ++ "/" ++ path).toList = bucket.toList ++ '/' :: path.toList := by
    simp [String.toList_append]
  have hplain : IsPlainPath path ↔ ¬ ['/', '/'] <:+: (bucket ++ "/" ++ path).toList := by
    rw [hchars, doubleSlash_infix_iff hslash, not_or]
    rfl
  rw [objectResource_eq, isResource_lead_iff, isBucketPart_coe_iff, hplain]
  constructor
  · exact fun hpart => hpart.2.1
  · intro hsingle
    refine ⟨fun hempty => ?_, hsingle, fun hno => absurd ?_ hno⟩
    · simpa using congrArg String.toList hempty
    · simp [hchars]

/-- All objects of a bucket can always be named. -/
theorem isPlainPath_everyPath : IsPlainPath everyPath := by
  simp [IsPlainPath, everyPath, List.infix_cons_iff]

/-- The resources of an order are sound when no action is about objects, or the path is. -/
theorem forall_isResource_resources_iff {bucket : String}
    (h : (Bucket.review bucket).isValid = true) (actions : List String) (path : String) :
    (∀ r ∈ resources bucket actions path, IsResource (.str r)) ↔
      (∀ a ∈ actions, ¬ "Object".toList <:+: a.toList) ∨ IsPlainPath path := by
  have hobjects : actions.any reachesObjects = true ↔
      ¬ ∀ a ∈ actions, ¬ "Object".toList <:+: a.toList := by
    simp [List.any_eq_true, reachesObjects, contains_iff]
  by_cases hall : ∀ a ∈ actions, ¬ "Object".toList <:+: a.toList
  · have hnone : actions.any reachesObjects = false := by
      rw [← Bool.not_eq_true, hobjects, not_not]
      exact hall
    refine ⟨fun _ => .inl hall, fun _ => ?_⟩
    -- only the bucket is named, or all its objects where no action shows what it is about
    cases hbucket : actions.any reachesBucket <;>
      simp [resources, neededResources, hnone, hbucket, isResource_bucketResource h,
        isResource_objectResource_iff h, isPlainPath_everyPath]
  · have hsome : actions.any reachesObjects = true := hobjects.2 hall
    rw [or_iff_right hall]
    cases hbucket : actions.any reachesBucket <;>
      simp [resources, neededResources, hsome, hbucket, isResource_bucketResource h,
        isResource_objectResource_iff h]

/-! ### The statement of a draft -/

theorem exactlyOne_iff_of_lookup {P : Value → Prop} {members : Members} {field negated : String}
    {v : Value} (hfield : List.lookup (field : Str) members = some v) (hv : v ≠ .null)
    (hnegated : List.lookup (negated : Str) members = none) :
    ExactlyOne P members field negated ↔ P v := by
  have hgiven : ∀ w, Given members field w ↔ w = v := by
    intro w
    rw [Given, hfield, Option.some.injEq]
    constructor
    · exact fun h => h.1.symm
    · rintro rfl
      exact ⟨rfl, hv⟩
  have hnone : ∀ w, ¬ Given members negated w := by simp [Given, hnegated]
  simp [ExactlyOne, hgiven, hnone]

/-- The members of the statement of a draft. -/
def Draft.members (d : Draft) : Members :=
  ([("Sid", .str d.sid), ("Effect", Draft.writtenEffect d.effect),
    ("Action", Draft.collapsed (d.actions.map Action.document)),
    ("Resource", Draft.collapsed (d.resources.map fun r : String => .str r))] : Members) ++
      (d.condition.map fun c => (("Condition" : Str), c)).toList

theorem lookup_members (d : Draft) (key : Str) :
    List.lookup key d.members =
      if key = "Sid" then some (.str d.sid)
      else if key = "Effect" then some (Draft.writtenEffect d.effect)
      else if key = "Action" then some (Draft.collapsed (d.actions.map Action.document))
      else if key = "Resource" then
        some (Draft.collapsed (d.resources.map fun r : String => .str r))
      else if key = "Condition" then d.condition
      else none := by
  have hcondition : List.lookup key (d.condition.map fun c => (("Condition" : Str), c)).toList =
      if key = "Condition" then d.condition else none := by
    cases d.condition with
    | none => simp
    | some c =>
        simp only [Option.map_some, Option.toList_some, Members.lookup_cons_eq_ite,
          List.lookup_nil]
  simp only [Draft.members, List.cons_append, List.nil_append, Members.lookup_cons_eq_ite,
    hcondition]

/-- A list of strings is not null, however it stands in a policy. -/
theorem collapsed_map_str_ne_null (texts : List String) :
    Draft.collapsed (texts.map fun t : String => .str t) ≠ .null := by
  match texts with
  | [] => simp [Draft.collapsed]
  | [t] => simp [Draft.collapsed]
  | t :: u :: rest => simp [Draft.collapsed]

theorem isSid_coe_iff {sid : String} :
    IsSid (.str sid) ↔ sid ≠ "" ∧ ∀ c ∈ sid.toList, isAlnum c = true := by
  simp [IsSid, Str.coe_inj]

theorem isAction_coe_iff {action : String} : IsAction (.str action) ↔ ':' ∈ action.toList := by
  simp [IsAction]

theorem isStatement_statement_iff (inside : Bool) {d : Draft} {actions : List String}
    (hactions : d.actions = actions.map .named) :
    IsStatement inside d.statement ↔
      IsSid (.str d.sid) ∧ (d.effect = some "Allow" ∨ d.effect = some "Deny") ∧
        (actions ≠ [] ∧ ∀ a ∈ actions, IsAction (.str a)) ∧
        (d.resources ≠ [] ∧ ∀ r ∈ d.resources, IsResource (.str r)) ∧
        ∀ c, d.condition = some c → c ≠ .null → IsCondition c := by
  have haction : ExactlyOne (OneOrMore IsAction) d.members "Action" "NotAction" ↔
      actions ≠ [] ∧ ∀ a ∈ actions, IsAction (.str a) := by
    rw [← oneOrMore_collapsed, ← map_document_named, ← hactions]
    refine exactlyOne_iff_of_lookup (by simp [lookup_members]) ?_ (by simp [lookup_members])
    rw [hactions, map_document_named]
    exact collapsed_map_str_ne_null actions
  have hresource : ExactlyOne (OneOrMore IsResource) d.members "Resource" "NotResource" ↔
      d.resources ≠ [] ∧ ∀ r ∈ d.resources, IsResource (.str r) := by
    rw [← oneOrMore_collapsed]
    exact exactlyOne_iff_of_lookup (by simp [lookup_members]) (collapsed_map_str_ne_null _)
      (by simp [lookup_members])
  have heffect : ∀ text : String, List.lookup ("Effect" : Str) d.members = some (.str text) ↔
      d.effect = some text := by
    intro text
    cases h : d.effect <;> simp [lookup_members, Draft.writtenEffect, h]
  have hbody : d.statement = .obj d.members := rfl
  rw [hbody, IsStatement]
  constructor
  · intro h
    refine ⟨h.sid _ (by simp [lookup_members]), ?_, haction.1 h.action, hresource.1 h.resource,
      fun c hc hnull => h.condition c ⟨by simp [lookup_members, hc], hnull⟩⟩
    simpa only [heffect] using h.effect
  · rintro ⟨hsid, heff, hact, hres, hcondition⟩
    refine ⟨?_, ?_, haction.2 hact, hresource.2 hres, ?_, ?_, ?_⟩
    · intro v hv
      simp only [lookup_members, if_true, Option.some.injEq] at hv
      exact hv ▸ hsid
    · simpa only [heffect] using heff
    · rintro v ⟨hv, hnull⟩
      exact hcondition v (by simpa [lookup_members] using hv) hnull
    -- principals are never named
    · rintro - v ⟨hv, -⟩
      simp [lookup_members] at hv
    · rintro - v ⟨hv, -⟩
      simp [lookup_members] at hv

/-- A draft makes a well-formed policy when its statement is well-formed. -/
theorem isPolicy_document_iff (inside : Bool) (d : Draft) :
    IsPolicy inside d.document ↔ IsStatement inside d.statement := by
  have hversion : List.lookup ("Version" : Str) [("Version", Value.str Catalog.currentVersion),
      ("Statement", .arr [d.statement])] = some (.str "2012-10-17") := by
    simp [Catalog.currentVersion]
  constructor
  · intro h
    obtain ⟨items, hitems, -, hall⟩ := h.statements
    have heq : items = [d.statement] := by
      simpa [Members.lookup_cons_eq_ite, eq_comm] using hitems
    exact hall _ (by simp [heq])
  · intro h
    refine ⟨.inl hversion, ⟨[d.statement], by simp [Members.lookup_cons_eq_ite], by simp, ?_⟩, ?_⟩
    · simpa using h
    · rintro v ⟨hv, -⟩
      simp [Members.lookup_cons_eq_ite] at hv

/-! ### What is told about actions -/

/-- The warnings about the action at a position: it belongs to another service, or to the storage
service and is not known there.  A name with a star stands for several actions. -/
def actionWarning (i : Nat) (action : String) : List String :=
  let service := beforeFirst ':' action.toList
  let name := beforeFirst ':' (behindFirst ':' action.toList)
  if ':' ∉ action.toList then []
  else if service ≠ "s3".toList then
    [s!"Statement[0].Action[{i}]: " ++ s!"\"{action}\" is not an S3 action"]
  else if action ∈ Catalog.knownActions ∨ '*' ∈ name then []
  else [s!"Statement[0].Action[{i}]: " ++ s!"\"{action}\" may not be a valid S3 action"]

/-- The warnings about a row of actions, in order. -/
def actionWarnings (actions : List String) : List String :=
  (actions.mapIdx actionWarning).flatten

/-- The warnings among findings, as they are told. -/
def warningsOf (findings : List Finding) : List Str :=
  Verdict.messages Finding.severity Finding.message .warning findings

theorem warnings_review (inside : Bool) (document : Value) :
    (review inside document).warnings = warningsOf (findings inside document) := rfl

@[simp] theorem warningsOf_nil : warningsOf [] = [] := rfl

@[simp] theorem warningsOf_append (findings more : List Finding) :
    warningsOf (findings ++ more) = warningsOf findings ++ warningsOf more :=
  Verdict.messages_append .warning findings more

theorem warningsOf_flatMap {α : Type} (xs : List α) (check : α → List Finding) :
    warningsOf (xs.flatMap check) = xs.flatMap fun x => warningsOf (check x) :=
  Verdict.messages_flatMap .warning xs check

theorem warningsOf_entryFindings (place : List Step) (check : List Step → Value → List Finding)
    (items : List Value) : warningsOf (entryFindings place check items) =
      (items.mapIdx fun i v => warningsOf (check (place ++ [.index i]) v)).flatten := by
  simp only [entryFindings, List.mapIdx_eq_zipIdx_map, ← List.flatMap_def, warningsOf_flatMap]

@[simp] theorem warningsOf_cons (f : Finding) (findings : List Finding) :
    warningsOf (f :: findings) =
      if f.problem.severity = .warning then f.message :: warningsOf findings
      else warningsOf findings := by
  by_cases h : f.problem.severity = .warning <;>
    simp [warningsOf, Verdict.messages, Finding.severity, h]

@[simp] theorem warningsOf_findingIf (condition : Bool) (place : List Step) (problem : Problem) :
    warningsOf (findingIf condition place problem) =
      if condition = true ∧ problem.severity = .warning then
        [Finding.message ⟨place, problem⟩]
      else [] := by
  cases condition <;> simp [findingIf]

/-! ### Fields without warnings -/

theorem warningsOf_sidFindings (place : List Step) (members : Members) :
    warningsOf (sidFindings place members) = [] := by
  unfold sidFindings
  split <;> simp [Problem.severity]

theorem warningsOf_effectFindings (place : List Step) (members : Members) :
    warningsOf (effectFindings place members) = [] := by
  unfold effectFindings
  split
  · simp [Problem.severity]
  · split <;> simp [Problem.severity]
  · simp [Problem.severity]

theorem warningsOf_conditionFieldFindings (place : List Step) (members : Members) :
    warningsOf (conditionFieldFindings place members) = [] := by
  have hoperator : ∀ place key block, warningsOf (operatorFindings place key block) = [] := by
    intro place key block
    unfold operatorFindings
    split <;> simp [Problem.severity]
  unfold conditionFieldFindings
  split
  · unfold conditionFindings
    split
    · simp [warningsOf_flatMap, hoperator]
    · simp [Problem.severity]
  · simp

theorem warningsOf_bucketFindings {rest : List Point}
    (h : ('/' : Point) ∈ rest ∨ isUsualBucketName rest = true) (place : List Step) :
    warningsOf (bucketFindings place rest) = [] := by
  unfold bucketFindings
  by_cases hempty : rest.isEmpty = true
  · simp [hempty, Problem.severity]
  · by_cases hslash : ('/' : Point) ∈ rest
    · simp [hempty, hslash, Problem.severity]
    · simp [hempty, hslash, h.resolve_left hslash, Problem.severity]

/-! ### The warnings about a draft -/

theorem isUsualBucketName_of_isValid {bucket : String}
    (h : (Bucket.review bucket).isValid = true) :
    isUsualBucketName (bucket : Str).toList = true := by
  have hlength := Bucket.le_length_of_isValid h
  have hhead := Bucket.head_isEdge_of_isValid h
  have hlast := Bucket.last_isEdge_of_isValid h
  have hchars : ∀ c ∈ bucket.toList, Bucket.isNameChar c = true :=
    fun c hc => Bucket.isNameChar_of_mem h hc
  have hlong : 2 ≤ bucket.length := by omega
  simp only [isUsualBucketName, Str.toList_coe, List.length_map, String.length_toList, hlong,
    decide_true, Bool.true_and, List.all_map, List.head?_map, List.getLast?_map, Option.any_map,
    Bool.and_eq_true, List.all_eq_true]
  exact ⟨⟨hchars, hhead⟩, hlast⟩

theorem mem_resources {bucket path r : String} {actions : List String}
    (h : r ∈ resources bucket actions path) :
    r = bucketResource bucket ∨ ∃ p, r = objectResource bucket p := by
  unfold resources at h
  split at h
  · exact .inr ⟨_, List.mem_singleton.1 h⟩
  · unfold neededResources at h
    rcases List.mem_append.1 h with h | h
    · split at h
      · exact .inl (List.mem_singleton.1 h)
      · simp at h
    · split at h
      · exact .inr ⟨_, List.mem_singleton.1 h⟩
      · simp at h

/-- **No name that is accepted is worth a warning in a resource.** -/
theorem warningsOf_resourceFindings {bucket path r : String} {actions : List String}
    (h : (Bucket.review bucket).isValid = true) (hr : r ∈ resources bucket actions path)
    (place : List Step) : warningsOf (resourceFindings place (.str r)) = [] := by
  have hlead : ∀ rest : String,
      '/' ∈ rest.toList ∨ isUsualBucketName (rest : Str).toList = true →
        warningsOf (resourceFindings place (.str (Catalog.bucketLead ++ rest : String))) = [] := by
    intro rest hrest
    have hstar : ((Catalog.bucketLead ++ rest : String) : Str) ≠ "*" := by
      intro heq
      simpa [Catalog.bucketLead] using congrArg Str.toList heq
    have hdrop : Str.dropLead? (Catalog.bucketLead ++ rest : String) Catalog.bucketLead =
        some (rest : Str) := by
      rw [Str.coe_append, Str.dropLead?_append]
    simp only [resourceFindings, hstar, if_false, hdrop]
    exact warningsOf_bucketFindings (hrest.imp_left fun hslash => by simpa using hslash) place
  rcases mem_resources hr with rfl | ⟨p, rfl⟩
  · exact hlead bucket (.inr (isUsualBucketName_of_isValid h))
  · rw [objectResource_eq]
    exact hlead _ (.inl (by simp [String.toList_append]))

theorem entries_collapsed (texts : List String) :
    entries (Draft.collapsed (texts.map fun t : String => .str t)) =
      texts.map fun t : String => .str t := by
  match texts with
  | [] => rfl
  | [t] => rfl
  | t :: u :: rest => rfl

theorem isOneOf_of_mem_keys {d : Draft} {key : Str} (h : key ∈ Members.keys d.members) :
    key.isOneOf Catalog.statementFields = true := by
  have hcondition : key ∈ (d.condition.map fun c => (("Condition" : Str), c)).toList.map Prod.fst →
      key = "Condition" := by
    cases d.condition <;> simp
  simp only [Members.keys, Draft.members, List.map_append, List.map_cons, List.map_nil,
    List.mem_append, List.mem_cons, List.not_mem_nil, or_false] at h
  rcases h with (rfl | rfl | rfl | rfl) | h
  · decide
  · decide
  · decide
  · decide
  · rw [hcondition h]
    decide

/-- The warnings about one of two fields of which only the first is there. -/
theorem warningsOf_choiceFindings {members : Members} {field negated : String} {v : Value}
    (hfield : present? members field = some v) (hnegated : present? members negated = none)
    (place : List Step) (check : List Step → Value → List Finding) :
    warningsOf (choiceFindings place members field negated check) =
      warningsOf (listFindings (place ++ [.member field]) check v) := by
  simp [choiceFindings, hfield, hnegated, Problem.severity]

/-- The statement of a policy that is made to order stands at the start of the policy. -/
def firstStatement : List Step := [.member "Statement", .index 0]

/-- A finding about an action, as it is told. -/
theorem message_action (i : Nat) (problem : Problem) :
    Finding.message ⟨firstStatement ++ [.member "Action"] ++ [.index i], problem⟩ =
      (s!"Statement[0].Action[{i}]: " : Str) ++ problem.text := by
  have hplace : Place.text (firstStatement ++ [.member "Action"] ++ [.index i]) =
      "Statement" ++ Str.join [s!"[{0}]", "." ++ ("Action" : Str), s!"[{i}]"] := rfl
  have hmessage : Finding.message ⟨firstStatement ++ [.member "Action"] ++ [.index i], problem⟩ =
      Place.text (firstStatement ++ [.member "Action"] ++ [.index i]) ++ ": " ++ problem.text := rfl
  have htext : "Statement" ++ (s!"[{0}]" ++ ("." ++ "Action" ++ s!"[{i}]")) ++ ": " =
      s!"Statement[0].Action[{i}]: " := by
    simp [← String.toList_inj, String.toList_append, toString]
  rw [hmessage, hplace, ← htext]
  simp only [Str.join_cons, Str.join_nil, Str.append_empty, Str.coe_append]

/-- A wording with a text between quotes, as a row of points. -/
theorem quoted_coe (text behind : String) :
    "\"" ++ (text : Str) ++ behind = (s!"\"{text}" ++ behind : String) := by
  rw [← Str.coe_append, ← Str.coe_append]
  rfl

/-- What is found in an action, told as warnings. -/
theorem warningsOf_actionFindings (i : Nat) (action : String) :
    warningsOf (actionFindings (firstStatement ++ [.member "Action"] ++ [.index i]) (.str action)) =
      (actionWarning i action).map Str.ofString := by
  by_cases hcolon : ':' ∈ action.toList
  · have hpoint : (':' : Point) ∈ (action : Str).toList := by simpa using hcolon
    obtain ⟨more, hmore⟩ :=
      exists_splitOn_eq_cons (':' : Point) (behindFirst (':' : Point) (action : Str).toList)
    unfold actionWarning
    rw [actionFindings, splitOn_of_mem hpoint, hmore, Str.toList_coe, beforeFirst_map_char,
      behindFirst_map_char, beforeFirst_map_char]
    generalize beforeFirst ':' action.toList = service
    generalize beforeFirst ':' (behindFirst ':' action.toList) = name
    have hunknown : (!Catalog.isKnownAction action && !(name.map Point.char).contains '*') = true ↔
        ¬ (action ∈ Catalog.knownActions ∨ '*' ∈ name) := by
      have hknown : Catalog.isKnownAction action = true ↔ action ∈ Catalog.knownActions :=
        Str.isOneOf_coe
      rw [← hknown]
      simp
    have hforeign : service.map Point.char ≠ ("s3" : Str).toList ↔ service ≠ "s3".toList := by
      rw [Str.toList_coe, ne_eq, Str.map_char_inj]
    simp only [hcolon, not_true_eq_false, if_false, hforeign]
    by_cases hservice : service = "s3".toList
    · simp only [hservice, ne_eq, not_true_eq_false, if_false, warningsOf_findingIf, hunknown,
        Problem.severity, and_true, message_action]
      by_cases hlisted : action ∈ Catalog.knownActions ∨ '*' ∈ name
      · rw [if_neg (not_not.2 hlisted), if_pos hlisted]
        rfl
      · rw [if_pos hlisted, if_neg hlisted, Problem.text, quoted_coe, ← Str.coe_append]
        rfl
    · simp only [hservice, ne_eq, not_false_eq_true, if_true, warningsOf_cons, warningsOf_nil,
        Problem.severity, message_action, Problem.text, ← Str.coe_append]
      rfl
  · have hpoint : (':' : Point) ∉ (action : Str).toList := by simpa using hcolon
    rw [actionFindings, splitOn_of_not_mem hpoint, actionWarning, if_pos hcolon]
    simp [Problem.severity]

/-- The warnings about strings, however their list stands in a policy. -/
theorem warningsOf_listFindings_collapsed {texts : List String} (hne : texts ≠ [])
    (place : List Step) (check : List Step → Value → List Finding) :
    warningsOf (listFindings place check (Draft.collapsed (texts.map fun t : String => .str t))) =
      (texts.mapIdx fun i (t : String) =>
        warningsOf (check (place ++ [.index i]) (.str t))).flatten := by
  have hentries :
      (entries (Draft.collapsed (texts.map fun t : String => .str t))).isEmpty = false := by
    simpa [entries_collapsed] using hne
  rw [listFindings, hentries, if_neg Bool.false_ne_true, warningsOf_entryFindings,
    entries_collapsed]
  simp only [List.mapIdx_eq_zipIdx_map, List.zipIdx_map, List.map_map]
  rfl

theorem warningsOf_listFindings_actions {actions : List String} (hne : actions ≠ []) :
    warningsOf (listFindings (firstStatement ++ [.member "Action"]) actionFindings
      (Draft.collapsed (actions.map fun a : String => .str a))) =
        (actionWarnings actions).map Str.ofString := by
  rw [warningsOf_listFindings_collapsed hne]
  simp only [warningsOf_actionFindings, actionWarnings, List.map_flatten,
    List.mapIdx_eq_zipIdx_map, List.map_map]
  rfl

theorem warningsOf_listFindings_resources {rs : List String} (hne : rs ≠ [])
    (h : ∀ r ∈ rs, ∀ place, warningsOf (resourceFindings place (.str r)) = [])
    (place : List Step) :
    warningsOf (listFindings place resourceFindings
      (Draft.collapsed (rs.map fun r : String => .str r))) = [] := by
  rw [warningsOf_listFindings_collapsed hne, List.flatten_eq_nil_iff]
  intro warnings hmem
  obtain ⟨i, hi, rfl⟩ := List.mem_mapIdx.1 hmem
  exact h _ (List.getElem_mem hi) _

/-- The statement of a draft is warned about for its actions only. -/
theorem warningsOf_statementFindings (inside : Bool) {d : Draft} {actions : List String}
    (hactions : d.actions = actions.map .named) (hne : actions ≠ []) (hsome : d.resources ≠ [])
    (hresources : ∀ r ∈ d.resources, ∀ place, warningsOf (resourceFindings place (.str r)) = []) :
    warningsOf (statementFindings inside firstStatement d.statement) =
      (actionWarnings actions).map Str.ofString := by
  have hbody : d.statement = .obj d.members := rfl
  have habsent : ∀ key : String, key ∈ ["Principal", "NotPrincipal", "NotAction", "NotResource"] →
      present? d.members key = none := by
    intro key hkey
    simp only [List.mem_cons, List.not_mem_nil, or_false] at hkey
    rcases hkey with rfl | rfl | rfl | rfl <;> simp [present?, lookup_members]
  have haction : present? d.members "Action" =
      some (Draft.collapsed (actions.map fun a : String => .str a)) := by
    rw [present?_eq_some_iff, ← map_document_named, ← hactions]
    refine ⟨by simp [lookup_members], ?_⟩
    rw [hactions, map_document_named]
    exact collapsed_map_str_ne_null actions
  have hresource : present? d.members "Resource" =
      some (Draft.collapsed (d.resources.map fun r : String => .str r)) :=
    present?_eq_some_iff.2 ⟨by simp [lookup_members], collapsed_map_str_ne_null _⟩
  have hknown : warningsOf (unknownFieldFindings firstStatement d.members) = [] := by
    rw [unknownFieldFindings, warningsOf_flatMap, List.flatMap_eq_nil_iff]
    intro key hkey
    simp [isOneOf_of_mem_keys hkey]
  have hprincipal : ∀ field ∈ ["Principal", "NotPrincipal"],
      principalFieldFindings inside firstStatement d.members field = [] := by
    intro field hfield
    have hnone := habsent field (List.mem_append_left ["NotAction", "NotResource"] hfield)
    simp [principalFieldFindings, hnone]
  rw [hbody, statementFindings]
  simp only [warningsOf_append, warningsOf_sidFindings, warningsOf_effectFindings,
    warningsOf_conditionFieldFindings, hknown, hprincipal "Principal" (by simp),
    hprincipal "NotPrincipal" (by simp), List.nil_append, List.append_nil,
    warningsOf_choiceFindings haction (habsent "NotAction" (by simp)),
    warningsOf_choiceFindings hresource (habsent "NotResource" (by simp)),
    warningsOf_listFindings_actions hne,
    warningsOf_listFindings_resources hsome hresources]

/-- A policy that is made to order is warned about for its actions only. -/
theorem warnings_review_document (inside : Bool) {d : Draft} {actions : List String}
    (hactions : d.actions = actions.map .named) (hne : actions ≠ []) (hsome : d.resources ≠ [])
    (hresources : ∀ r ∈ d.resources, ∀ place, warningsOf (resourceFindings place (.str r)) = []) :
    (review inside d.document).warnings = (actionWarnings actions).map Str.ofString := by
  have hversion : versionFindings [("Version", .str Catalog.currentVersion),
      ("Statement", .arr [d.statement])] = [] := rfl
  have hstatements : statementsFindings inside [("Version", .str Catalog.currentVersion),
      ("Statement", .arr [d.statement])] =
        statementFindings inside firstStatement d.statement ++ [] := rfl
  have hroot : unknownRootFindings [("Version", .str Catalog.currentVersion),
      ("Statement", .arr [d.statement])] = [] := rfl
  have hid : idFindings [("Version", .str Catalog.currentVersion),
      ("Statement", .arr [d.statement])] = [] := rfl
  rw [warnings_review, Draft.document, findings, hversion, hstatements, hroot, hid]
  simp [warningsOf_statementFindings inside hactions hne hsome hresources]

/-! ### Orders -/

/-- The draft of an order, given that one is made. -/
theorem ofOrder_eq_ok_iff {limit : Nat} {sid : String} {order : Order} {d : Draft} :
    Draft.ofOrder limit sid order = .ok d ↔
      Draft.checkActions order.actions = .ok () ∧
        ∃ condition, Draft.conditionOf limit order.condition = .ok condition ∧
          d = ⟨sid, order.effect, order.actions,
            resources order.bucket (Action.names order.actions) (Draft.pathOf order.path),
            condition⟩ := by
  unfold Draft.ofOrder
  cases Draft.checkActions order.actions with
  | error failure => simp
  | ok u =>
      cases Draft.conditionOf limit order.condition with
      | error failure => simp [Except.map]
      | ok condition => simp [Except.map, eq_comm]

/-- A condition that has been read is sound when its typed text is. -/
theorem isTypedCondition_iff {limit : Nat} {typed : Option String} {condition : Option Value}
    (h : Draft.conditionOf limit typed = .ok condition) :
    IsTypedCondition limit typed ↔ ∀ c, condition = some c → c ≠ .null → IsCondition c := by
  cases typed with
  | none =>
      obtain rfl : none = condition := Except.ok.inj h
      simp [IsTypedCondition]
  | some text =>
      by_cases hblank : strip text = ""
      · have hnone : Draft.conditionOf limit (some text) = .ok none := by
          simp [Draft.conditionOf, hblank]
        obtain rfl : none = condition := Except.ok.inj (hnone.symm.trans h)
        simp [IsTypedCondition, hblank]
      · cases hread : Json.read limit text with
        | error fault => simp [Draft.conditionOf, hblank, hread] at h
        | ok v =>
            have hsome : Draft.conditionOf limit (some text) = .ok (some v) := by
              simp [Draft.conditionOf, hblank, hread]
            obtain rfl : some v = condition := Except.ok.inj (hsome.symm.trans h)
            simp only [IsTypedCondition, Option.some.injEq, forall_eq', hblank, hread, ne_eq,
              not_false_eq_true, forall_const, Except.ok.injEq, exists_eq_left']
            exact or_iff_not_imp_left

/-- The given id is taken as it is, and nothing is left behind. -/
theorem runIn_assemble_ok_iff {limit : Nat} {sid : String} (hsid : sid ≠ "") {now : Decimal.Double}
    {order : Order} {w w' : Workspace} {d : Draft} :
    (Generator.assemble limit (some sid) now order).runIn w = (.ok d, w') ↔
      Draft.ofOrder limit sid order = .ok d ∧ w' = w := by
  have hgiven : Generator.givenOrNewSid (some sid) now = pure sid := by
    simp [Generator.givenOrNewSid, Option.filter_some, hsid]
  rw [Generator.assemble, hgiven]
  constructor
  · intro h
    obtain ⟨_, w₁, hcheck, hmade⟩ := Work.runIn_bind_ok_iff.1 h
    obtain ⟨-, rfl⟩ := Work.runIn_ofExcept_ok_iff.1 hcheck
    exact Work.runIn_ofExcept_ok_iff.1 hmade
  · rintro ⟨h, rfl⟩
    rw [Work.runIn_bind_of_ok (Work.runIn_ofExcept_ok_iff.2 ⟨(ofOrder_eq_ok_iff.1 h).1, rfl⟩)]
    exact Work.runIn_ofExcept_ok_iff.2 ⟨h, rfl⟩

/-- **A policy that is made to order is accepted exactly when its order is sound, and only its
actions are warned about.** -/
theorem review_assemble {limit : Nat} {sid bucket : String} (hsid : sid ≠ "")
    (hbucket : (Bucket.review bucket).isValid = true) {actions : List String} (hne : actions ≠ [])
    {effect path condition : Option String} {now : Decimal.Double} {w w' : Workspace} {d : Draft}
    (h : (Generator.assemble limit (some sid) now
      ⟨bucket, effect, actions.map .named, path, condition⟩).runIn w = (.ok d, w'))
    (inside : Bool) :
    ((review inside d.document).isValid = true ↔
        IsSoundOrder limit sid effect actions path condition) ∧
      (review inside d.document).warnings = (actionWarnings actions).map Str.ofString := by
  obtain ⟨-, c, hcondition, rfl⟩ := ofOrder_eq_ok_iff.1 ((runIn_assemble_ok_iff hsid).1 h).1
  simp only [Action.names_named] at *
  have hsome := resources_ne_nil bucket actions (Draft.pathOf path)
  refine ⟨?_, warnings_review_document inside rfl hne hsome
    fun r hr place => warningsOf_resourceFindings hbucket hr place⟩
  rw [isValid_review_iff_passes, passes_findings, isPolicy_document_iff,
    isStatement_statement_iff inside rfl, ← isTypedCondition_iff hcondition]
  simp only [isSid_coe_iff, isAction_coe_iff]
  constructor
  · rintro ⟨hid, heffect, hactions, hresources, hsound⟩
    exact ⟨heffect, hid.2, hactions.2,
      (forall_isResource_resources_iff hbucket actions _).1 hresources.2, hsound⟩
  · intro horder
    exact ⟨⟨hsid, horder.sid_alnum⟩, horder.effect_known, ⟨hne, horder.actions_qualified⟩,
      ⟨hsome, (forall_isResource_resources_iff hbucket actions _).2 horder.path_plain⟩,
      horder.condition_sound⟩

/-- The policy for reading some objects of a bucket and for an action of another service, under a
condition. -/
theorem review_assemble_reading :
    "Read" ≠ "" ∧ (Bucket.review "abc").isValid = true ∧ ["s3:GetObject", "iam:GetUser"] ≠ [] ∧
      ∃ d, (Generator.assemble 990 (some "Read") (.finite false 0) ⟨"abc", some "Allow",
          ["s3:GetObject", "iam:GetUser"].map .named, some " in/* ",
            some " \x7b\x7d"⟩).runIn (.fresh ⟨[], []⟩) = (.ok d, .fresh ⟨[], []⟩) ∧
        (((review true d.document).isValid = true ↔ IsSoundOrder 990 "Read" (some "Allow")
            ["s3:GetObject", "iam:GetUser"] (some " in/* ")
            (some " \x7b\x7d")) ∧
          (review true d.document).warnings =
            (actionWarnings ["s3:GetObject", "iam:GetUser"]).map Str.ofString) := by
  have hsid : "Read" ≠ "" := by decide
  have hbucket : (Bucket.review "abc").isValid = true := by decide
  have hne : ["s3:GetObject", "iam:GetUser"] ≠ [] := by decide
  have hmade : ∃ d, (Generator.assemble 990 (some "Read") (.finite false 0) ⟨"abc", some "Allow",
      ["s3:GetObject", "iam:GetUser"].map .named, some " in/* ",
        some " \x7b\x7d"⟩).runIn (.fresh ⟨[], []⟩) = (.ok d, .fresh ⟨[], []⟩) :=
    ⟨_, rfl⟩
  obtain ⟨d, h⟩ := hmade
  exact ⟨hsid, hbucket, hne, d, h, review_assemble hsid hbucket hne h true⟩

end BucketAccess.Policy
